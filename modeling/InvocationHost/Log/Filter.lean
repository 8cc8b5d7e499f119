import InvocationHost.Log.Directive

/-! # Log filters

A filter is a list of directives. Of those that apply to an event the one that asks for most decides,
and of several that ask for the same the last. Without one the event is not let through.
-/
namespace InvocationHost.Log
open Text

abbrev Filter := List Directive

namespace Filter

/-- Directives between commas. If one cannot be read, the filter cannot. -/
def parse? (s : String) : Option Filter :=
  ((pieces (· = ',') s.toList).filter (!·.isEmpty)).mapM Directive.parse?

def ofThreshold (threshold : Threshold) : Filter := [{ threshold }]

def deciding? (f : Filter) (e : Event) : Option Directive :=
  (f.filter (·.appliesTo e)).foldl (fun best d =>
    if best.all (·.demand d != .gt) then some d else best) none

def allows (f : Filter) (e : Event) : Bool :=
  (f.deciding? e).any fun d => e.level.rank ≤ d.threshold

end Filter
end InvocationHost.Log
