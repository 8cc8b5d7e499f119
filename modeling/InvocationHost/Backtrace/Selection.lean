import InvocationHost.Backtrace.Parser

/-! # The handler's own frames

Of a backtrace a report keeps the frames between the panic machinery and the host: from the first
frame after the panic entry that is no runtime frame, up to the first boundary, without the runtime
frames at the end, and no more than `maxFrames`.
-/
namespace InvocationHost.Backtrace

def maxFrames : Nat := 32

/-- From the first panic entry on; everything, if there is none. -/
def fromPanicEntry (frames : List RawFrame) : List RawFrame :=
  match frames.dropWhile (!·.isPanicEntry) with
  | [] => frames
  | rest => rest

def dropTrailing (p : α → Bool) (xs : List α) : List α := (xs.reverse.dropWhile p).reverse

def userBlock (boundaries : List String) (frames : List RawFrame) : List RawFrame :=
  dropTrailing RawFrame.isRuntime <|
    ((fromPanicEntry frames).dropWhile RawFrame.isRuntime).takeWhile (!·.isBoundary boundaries)

def userFrames (boundaries : List String) (rendered : String) : List StackFrame :=
  ((userBlock boundaries (readFrames rendered)).take maxFrames).map RawFrame.report

end InvocationHost.Backtrace
