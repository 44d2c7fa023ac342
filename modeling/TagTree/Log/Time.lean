import TagTree.Fault
import TagTree.Heap
import TagTree.Text.Date.Template

/-!
# Times of records

A record knows its time in seconds from the beginning of 1970. Times so far away that their year
cannot be counted have no text.
-/

namespace TagTree.Log

/-- The template for times where none is given. -/
def plainDateFormat : String := "%Y-%m-%d %H:%M:%S"

/-- The number of whole seconds of a time, rounded down. -/
def wholeSeconds (created : Value) : Except Fault Int := do
  let seconds ←
    match created with
    | .int n => .ok n
    | .bool b => .ok (if b then 1 else 0)
    | .float x =>
      if x.isNan then .error (.time .notANumber)
      else
        match x.floor? with
        | some n => .ok n
        | none => .error (.time .outOfRange)
    | _ => .error .unsupported
  if -Int.pow 2 63 ≤ seconds ∧ seconds < Int.pow 2 63 then return seconds
  else .error (.time .outOfRange)

/-- The date of a time. -/
def dateAt (created : Value) : Except Fault Text.Date := do
  let date := Text.dateOf (← wholeSeconds created)
  let year := date.year - 1900
  if -Int.pow 2 31 ≤ year ∧ year < Int.pow 2 31 then return date else .error (.time .noSuchYear)

/-- The text of a date by a template. -/
def dateText (date : Text.Date) (template : String) : Except Fault String :=
  if Int.pow 2 31 ≤ date.year then .error (.time .hugeYear)
  else if template.toList.contains '\x00' then .error (.time .nullInTemplate)
  else .ok (date.format template)

/-- The text of a time by a template. Without one the milliseconds are shown too, of which records
keep none. -/
def timeText (h : Heap) (created template : Value) : Except Fault String := do
  let date ← dateAt created
  if h.truthy template then
    match template with
    | .str s => dateText date s
    | _ => .error .unsupported
  else return (← dateText date plainDateFormat) ++ ",000"

end TagTree.Log
