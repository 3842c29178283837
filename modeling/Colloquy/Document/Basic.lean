import Colloquy.Scalar
/-!
# Dialogue documents

A document holds variables and conversations. A conversation is a list of nodes. A node can
show a line (speaker and text), offer choices that each lead to a conversation, assign
variables when it is entered, and jump (`goto`) to another conversation.

A jump with an empty target is no jump. A node with at least one choice is a *decision point*.
-/

namespace Colloquy

/-- A choice: its text and the id of the conversation it leads to. -/
structure Choice where
  text : String
  target : String
  deriving Inhabited

/-- A node of a conversation. -/
structure Node where
  speaker : String := ""
  text : String := ""
  choices : List Choice := []
  assignments : List (String × Scalar) := []
  goto : Option String := none
  deriving Inhabited

namespace Node

/-- A node that only shows a line. -/
def line (speaker text : String) : Node :=
  { speaker := speaker, text := text }

/-- The target of the node's jump, if it has a non-empty one. -/
def jumpTarget? (n : Node) : Option String :=
  n.goto.filter (· ≠ "")

/-- Whether the node offers choices. -/
def isDecision (n : Node) : Bool :=
  !n.choices.isEmpty

end Node

/-- A conversation: its id as written (trimmed) and its nodes. -/
structure Conversation where
  id : String
  nodes : List Node
  deriving Inhabited

/-- The node at a position, if there is one. -/
def Conversation.node? (c : Conversation) (i : Nat) : Option Node :=
  c.nodes[i]?

/-- A dialogue document: variables with their first values, and conversations, both in the
order written. -/
structure Document where
  bindings : List (String × Scalar) := []
  conversations : List Conversation := []
  deriving Inhabited

end Colloquy
