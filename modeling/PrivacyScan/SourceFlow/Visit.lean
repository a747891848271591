import PrivacyScan.Source.Statement
import PrivacyScan.SourceFlow.Assignment
import PrivacyScan.SourceFlow.Sink

/-!
The walk through a Python module. Each node is entered, then its parts are walked in order, then it
is left; `analyze` is the whole.
-/

namespace PrivacyScan.SourceFlow

open Source (Node Form Place Constant)

/-- The route that a decorator such as `app.route("/users")` gives to its function. -/
def routeOf? : Node → Option Constant
  | .call _ (.member _ "route" _) (input :: _) _ => input.constant?
  | _ => none

def parameterNames : Node → List String
  | .parameters _ plain _ _ _ _ _ =>
    plain.filterMap fun
      | .parameter _ id _ => some id
      | _ => none
  | _ => []

def enterFunction (id : String) (decorators : List Node) (state : State) : State :=
  { state with
    function := some id
    route := (decorators.filterMap routeOf?).foldl (fun _ route => some route) state.route }

/-- What a node tells before its parts are walked. -/
def enter (setting : Setting) (node : Node) (state : State) : Outcome State :=
  match node with
  | .functionDef _ false id _ _ decorators _ => .ok (enterFunction id decorators state)
  | .functionDef _ true id _ _ _ _ => .ok { state with function := some id }
  | .assign place targets value => assign setting place targets value state
  | .call place function inputs keywords =>
    checkCall setting { node, place, function, inputs, keywords } state
  | _ => .ok state

/-- Behind a function, the walk stands again where it stood before. -/
def leave (form : Form) (before after : State) : State :=
  match form with
  | .functionDef false _ => { after with function := before.function, route := before.route }
  | .functionDef true _ => { after with function := before.function }
  | _ => after

mutual

def visit (setting : Setting) : Node → State → Outcome State
  | .mk form place parts, state => do
    let entered ← enter setting (.mk form place parts) state
    let walked ← visitGroups setting parts entered
    return leave form state walked

def visitGroups (setting : Setting) : List (List Node) → State → Outcome State
  | [], state => .ok state
  | group :: rest, state => do visitGroups setting rest (← visitNodes setting group state)

def visitNodes (setting : Setting) : List Node → State → Outcome State
  | [], state => .ok state
  | node :: rest, state => do visitNodes setting rest (← visit setting node state)

end

/-- Notes the parameters of the functions of a module, which the walk has no use for. -/
def noteParameters (tree : Node) (state : State) : State :=
  let parameters := tree.preorder.foldl (fun (noted : Table (List String)) node =>
    match node with
    | .functionDef _ false id inputs _ _ _ => noted.set id (parameterNames inputs)
    | _ => noted) []
  { state with tracker := { state.tracker with parameters } }

/-- The state after the walk through the code of a file; `none` when it is no Python module. -/
def analyze? (file code : String) (method : Classify.Method := .byRules) : Outcome (Option State) :=
  match Source.parseModule? code with
  | none => .ok none
  | some tree =>
    (fun state => some (noteParameters tree state)) <$>
      visit (Setting.ofCode file code method) tree {}

end PrivacyScan.SourceFlow
