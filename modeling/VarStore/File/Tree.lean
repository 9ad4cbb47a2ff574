import VarStore.File.Path

/-!
# A tree of files

A tree of files is walked component by component.  On the way one has to remember how to get back
up, so a place in the tree is a *trail*: the node one has arrived at and the directories above it.
Nothing is decided by the text of the path alone; in particular `a/..` leads nowhere if there is no
directory `a`.
-/

namespace VarStore
namespace File

/-- A file or a directory. -/
inductive Node where
  | file (content : ByteArray)
  | directory (entries : List (String × Node))

/-- A place in a tree: the node, and the directories above it from the nearest on. -/
structure Trail where
  node : Node
  above : List Node

/-- The longest component in bytes. -/
def longestName : Nat := 255

namespace Trail

/-- One step up; above the root is the root. -/
def up (t : Trail) : Trail :=
  match t.above with
  | [] => t
  | d :: above => ⟨d, above⟩

/-- One step along a component.  Only a directory can be left. -/
def step (t : Trail) (name : String) : Except Fault Trail :=
  match t.node with
  | .file _ => .error .notDirectory
  | .directory entries =>
    if name = "" ∨ name = "." then .ok t
    else if name = ".." then .ok t.up
    else if longestName < name.utf8ByteSize then .error .nameTooLong
    else
      match entries.lookup name with
      | none => .error .missing
      | some node => .ok ⟨node, t.node :: t.above⟩

/-- Steps along components. -/
def walk (t : Trail) : List String → Except Fault Trail
  | [] => .ok t
  | name :: rest => (t.step name).bind fun u => u.walk rest

@[simp] theorem walk_nil (t : Trail) : t.walk [] = .ok t := rfl

theorem walk_cons (t : Trail) (name : String) (rest : List String) :
    t.walk (name :: rest) = (t.step name).bind fun u => u.walk rest := rfl

theorem walk_append (t : Trail) (xs ys : List String) :
    t.walk (xs ++ ys) = (t.walk xs).bind fun u => u.walk ys := by
  induction xs generalizing t with
  | nil => rfl
  | cons x xs ih =>
    rw [List.cons_append, walk_cons, walk_cons]
    cases t.step x with
    | error e => rfl
    | ok u => exact ih u

end Trail

/-- The text that a node holds. -/
def Node.text : Node → Except Fault String
  | .directory _ => .error .isDirectory
  | .file content =>
    match String.fromUTF8? content with
    | some text => .ok text
    | none => .error .notText

/-- A tree of files, and the directory in it from which relative paths start. -/
structure Tree where
  root : Trail
  here : Trail

namespace Tree

/-- Where a path starts. -/
def start (t : Tree) (path : String) : Trail := if isAbsolute path then t.root else t.here

/-- Read the file at a path. -/
def read (t : Tree) : Reader := fun path =>
  match pathFault? path with
  | some fault => .error fault
  | none => ((t.start path).walk (components path)).bind fun u => u.node.text

end Tree

/-! ## Growing a tree -/

/-- A directory without entries. -/
def Node.emptyDirectory : Node := .directory []

/-- Put a node at a path below a node, with the directories on the way to it. -/
def Node.insert (new : Node) : List String → Node → Node
  | [], _ => new
  | name :: rest, .file _ => .directory [(name, Node.insert new rest .emptyDirectory)]
  | name :: rest, .directory entries =>
    .directory ((name, Node.insert new rest ((entries.lookup name).getD .emptyDirectory)) ::
      entries.filter fun p => p.1 ≠ name)

end File
end VarStore
