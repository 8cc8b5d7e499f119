/-! # Machines that do things

A machine is given by a step: what an event makes of a state, and what is done along the way; none if
the event cannot happen in that state. `follow` is a run of it.
-/
namespace InvocationHost

abbrev Machine (σ ε α : Type) := σ → ε → Option (σ × List α)

namespace Machine

/-- Follows a list of events as long as they can happen. -/
def follow (step? : Machine σ ε α) (s : σ) : List ε → Option (σ × List α)
  | [] => some (s, [])
  | e :: es => do
    let (s, now) ← step? s e
    let (s, later) ← follow step? s es
    return (s, now ++ later)

theorem follow_append (step? : Machine σ ε α) (s : σ) (es fs : List ε) :
    follow step? s (es ++ fs) = (do
      let (s, now) ← follow step? s es
      let (s, later) ← follow step? s fs
      return (s, now ++ later)) := by
  induction es generalizing s with
  | nil => cases h : follow step? s fs <;> simp [follow, h]
  | cons e es ih =>
    cases h : step? s e with
    | none => simp [follow, h]
    | some r =>
      cases h' : follow step? r.1 es with
      | none => simp [follow, h, ih, h']
      | some q =>
        cases h'' : follow step? q.1 fs <;> simp [follow, h, ih, h', h'', List.append_assoc]

end Machine
end InvocationHost
