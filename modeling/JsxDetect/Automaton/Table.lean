import JsxDetect.Automaton.Actions
import JsxDetect.Automaton.SymbolSets
import JsxDetect.Automaton.States00
import JsxDetect.Automaton.States01
import JsxDetect.Automaton.States02
import JsxDetect.Automaton.States03
import JsxDetect.Automaton.States04
import JsxDetect.Automaton.States05
import JsxDetect.Automaton.States06
import JsxDetect.Automaton.States07
import JsxDetect.Automaton.States08
import JsxDetect.Automaton.States09
import JsxDetect.Automaton.States10
import JsxDetect.Automaton.States11

/-!
# Parsing automaton

The automaton of the grammar: in each state, what to do at each token, and where to go once a
phrase is complete.  State 0 is where text that fits no rule is read, state 1 is the start.

## Main Definitions

* `row`, `actions`, `goto`: the table
* `acts`, `reducesFirst`: what a state does at a token, in short
-/

namespace JsxDetect.Automaton

/-- The rows as they are stored. -/
def packedRows : List (List PackedRow) := [
  states0000, states0064, states0128, states0192, states0256, states0320, states0384,
  states0448, states0512, states0576, states0640, states0704, states0768, states0832,
  states0896, states0960, states1024, states1088, states1152, states1216, states1280,
  states1344, states1408, states1472, states1536, states1600, states1664, states1728,
  states1792, states1856, states1920, states1984, states2048, states2112, states2176,
  states2240, states2304, states2368, states2432, states2496, states2560, states2624,
  states2688, states2752, states2816, states2880, states2944, states3008, states3072,
  states3136, states3200, states3264, states3328, states3392, states3456, states3520,
  states3584, states3648, states3712, states3776, states3840, states3904, states3968,
  states4032, states4096, states4160, states4224, states4288, states4352, states4416,
  states4480, states4544, states4608, states4672, states4736, states4800, states4864,
  states4928, states4992, states5056, states5120, states5184, states5248, states5312,
  states5376, states5440, states5504, states5568, states5632]

/-- The rows, by state. -/
def rows : Chunked Row :=
  Chunked.ofLists (packedRows.map (List.map (PackedRow.unpack tokenSets phraseSets)))

/-- The row of a state; empty if there is no such state. -/
def row (state : StateId) : Row := rows.get state ⟨0, 0, [], []⟩

/-- The list of actions behind a number: a small one is the state of a lone shift. -/
def actionsOf (code : Nat) : List Action :=
  if code = 0 then []
  else if code < 8192 then [.shift code false]
  else actionLists.get (code - 8192) []

/-- What to do in a state at a token. -/
def actions (state : StateId) (symbol : Symbol) : List Action :=
  actionsOf (entry symbol (row state).actions)

/-- Is there anything to do in a state at a token? -/
def acts (state : StateId) (symbol : Symbol) : Bool := entry symbol (row state).actions ≠ 0

/-- The state behind a symbol that is read or completed in a state; 0 if there is none. -/
def goto (state : StateId) (symbol : Symbol) : StateId :=
  if symbol < Symbol.tokenCount then
    match (actions state symbol).getLast? with
    | some (.shift next _) => next
    | some .shiftExtra => state
    | _ => 0
  else entry (symbol - Symbol.tokenCount) (row state).gotos

/-- Does a state complete a phrase before a token, ahead of any other action? -/
def reducesFirst (state : StateId) (symbol : Symbol) : Bool :=
  match actions state symbol with
  | .reduce .. :: _ => true
  | _ => false

end JsxDetect.Automaton
