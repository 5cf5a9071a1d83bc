import CommandTelemetry.Failure.Graph

/-!
# Searching a graph of failures

The search goes depth first over a failure itself, the members of a group, and the cause or context.
It keeps a stack of failures to visit and a list of those it has visited. A failure may be put on
the stack more than once, and is passed over when it comes up again.

Each step either visits a node for the first time or takes one off the stack, which is why the
search ends on cyclic graphs too.
-/

namespace CommandTelemetry.Failure

/-- How many nodes have not been visited. -/
def unvisited (size : Nat) (seen : List Nat) : Nat :=
  ((List.range size).filter fun i => !seen.contains i).length

theorem unvisited_cons_lt {size i : Nat} {seen : List Nat} (hi : i < size)
    (hs : seen.contains i = false) : unvisited size (i :: seen) < unvisited size seen := by
  have hmem : i ∈ (List.range size).filter fun j => !seen.contains j := by
    simpa using And.intro hi (by simpa using hs)
  have hsub : (List.range size).filter (fun j => !(i :: seen).contains j)
      = ((List.range size).filter fun j => !seen.contains j).filter (· != i) := by
    rw [List.filter_filter]
    congr 1
    funext j
    by_cases h : j = i <;> simp [h]
  unfold unvisited
  rw [hsub]
  exact List.length_filter_lt_length_iff_exists.2 ⟨i, hmem, by simp⟩

/-- The first wanted node among those on the stack and those that they lead to. -/
def searchFrom (nodes : List Node) (wanted : Node → Bool) (seen : List Nat) :
    (stack : List Nat) → Option Nat
  | [] => none
  | i :: stack =>
    if _hs : seen.contains i then searchFrom nodes wanted seen stack
    else
      match _hn : nodes[i]? with
      | none => searchFrom nodes wanted seen stack
      | some n =>
        if wanted n then some i else searchFrom nodes wanted (i :: seen) (n.links ++ stack)
termination_by stack => (unvisited nodes.length seen, stack.length)
decreasing_by
  · exact Prod.Lex.right _ (by simp)
  · exact Prod.Lex.right _ (by simp)
  · exact Prod.Lex.left _ _
      (unvisited_cons_lt (List.getElem?_eq_some_iff.1 _hn).1 (by simpa using _hs))

/-- The index of the first wanted node that a failure leads to. -/
def find? (f : Failure) (wanted : Node → Bool) : Option Nat :=
  searchFrom f.nodes wanted [] [f.root]

/-- The first wanted node that a failure leads to. -/
def findNode? (f : Failure) (wanted : Node → Bool) : Option Node :=
  (f.find? wanted).bind (f.nodes[·]?)

namespace Node

def isService (n : Node) : Bool := n.shape matches .service ..

def isDeployment (n : Node) : Bool := n.shape matches .deployment ..

def isTool (n : Node) : Bool := n.shape matches .tool ..

def isAuth (n : Node) : Bool := n.shape matches .auth ..

def isA (className : String) (n : Node) : Bool := n.classes.contains (canonicalName className)

end Node

end CommandTelemetry.Failure
