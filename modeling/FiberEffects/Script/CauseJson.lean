import FiberEffects.Cause.Basic
import FiberEffects.Protocol.Decode

namespace FiberEffects.Script

open Protocol

def causeJson : Cause Json → Json
  | .empty => .mkObj [("t", .str "empty")]
  | .expected t e => .mkObj [("t", .str "expected"), ("time", .nat t.nanos), ("error", e)]
  | .unexpected t d => .mkObj [("t", .str "unexpected"), ("time", .nat t.nanos), ("defect", .str d)]
  | .interrupted t f => .mkObj [("t", .str "interrupted"), ("time", .nat t.nanos), ("by", fiberIdJson f)]
  | .seq l r => .mkObj [("t", .str "seq"), ("left", causeJson l), ("right", causeJson r)]
  | .par l r => .mkObj [("t", .str "par"), ("left", causeJson l), ("right", causeJson r)]
  | .traced c lbl => .mkObj [("t", .str "traced"), ("cause", causeJson c), ("label", .str lbl)]

def leafTime (j : Json) : Decode Time := do
  pure (Time.ofNat ((← optNat j "time").getD 0))

def lookupField : (fields : List (String × Json)) → String →
    Option { v : Json // sizeOf v < sizeOf fields }
  | [], _ => none
  | (k', v) :: rest, k =>
    if k' = k then some ⟨v, by simp; omega⟩
    else (lookupField rest k).map fun ⟨w, h⟩ => ⟨w, by simp; omega⟩

/-- Reads a cause from JSON. -/
def causeOfJson : Json → Decode (Cause Json)
  | j@(.obj fields) => do
    let sub (k : String) : Decode (Cause Json) :=
      match lookupField fields k with
      | some ⟨v, _⟩ => causeOfJson v
      | none => badInput s!"missing field {k}"
    match ← reqStr j "t" with
    | "empty" => pure .empty
    | "expected" => pure (.expected (← leafTime j) ((j.field? "error").getD .null))
    | "unexpected" => pure (.unexpected (← leafTime j) (← reqStr j "defect"))
    | "interrupted" => pure (.interrupted (← leafTime j) (← asFiberId ((j.field? "by").getD .null)))
    | "seq" => pure (.seq (← sub "left") (← sub "right"))
    | "par" => pure (.par (← sub "left") (← sub "right"))
    | "combine" => pure (Cause.combine (← sub "left") (← sub "right"))
    | "traced" => pure (.traced (← sub "cause") (← reqStr j "label"))
    | other => badInput s!"unknown cause kind {other}"
  | _ => badInput "missing field t"
termination_by j => sizeOf j
decreasing_by
  all_goals
    simp_wf
    omega

end FiberEffects.Script
