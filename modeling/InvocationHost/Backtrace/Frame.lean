import InvocationHost.Backtrace.SourcePath
import InvocationHost.Backtrace.Symbol

/-! # Stack frames

A `RawFrame` is what a backtrace says of one function call, a `StackFrame` what a report says of it.
-/
namespace InvocationHost

structure RawFrame where
  symbol : String
  file : Option String := none
  line : UInt32 := 0
  deriving DecidableEq, Repr

structure StackFrame where
  path : String
  line : UInt32
  label : String
  deriving DecidableEq, Repr

namespace StackFrame

def render (f : StackFrame) : String := s!"{f.label} ({f.path}:{f.line.toNat})"

def placeholderLabel : String := "<panic>"

/-- The frame for a panic of which only the place is known. -/
def ofLocation (file : String) (line : UInt32) : StackFrame :=
  ⟨SourcePath.minimal file,line,placeholderLabel⟩

end StackFrame

namespace RawFrame
open InvocationHost.Symbol

def runtimeStarts : List String :=
  ["std::", "core::", "alloc::", "rust_begin_unwind", "__rust", "<std::", "<core::", "<alloc::"]

def runtimePaths : List String := ["/rustc/", "/library/std/", "/library/core/", "/library/alloc/"]

def panicEntryStarts : List String :=
  ["std::panicking::", "core::panicking::", "rust_begin_unwind", "__rustc::rust_begin_unwind"]

/-- A frame of the language's own library, by its symbol or by its file. -/
def isRuntime (f : RawFrame) : Bool :=
  startsWithAny runtimeStarts f.symbol.toList ||
    f.file.any fun file => runtimePaths.any fun m => Text.holds m.toList file.toList

/-- A frame where unwinding starts. -/
def isPanicEntry (f : RawFrame) : Bool := startsWithAny panicEntryStarts f.symbol.toList

def isBoundary (boundaries : List String) (f : RawFrame) : Bool := belongsTo boundaries f.symbol

def report (f : RawFrame) : StackFrame :=
  ⟨(f.file.map SourcePath.minimal).getD "",f.line,label f.symbol⟩

end RawFrame
end InvocationHost
