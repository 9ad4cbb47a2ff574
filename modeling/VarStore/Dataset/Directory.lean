import VarStore.Dataset.Basic
import VarStore.File.Path

/-!
# Datasets in a directory

Datasets can be the files below a directory.  A name is a path from there on, or an absolute path
of its own.  Names that ask for the network are turned down before any file is looked at.
-/

namespace VarStore
namespace Dataset

/-- The datasets below a directory. -/
structure InDirectory where
  root : String

namespace InDirectory

/-- The path of a dataset. -/
def path (d : InDirectory) (name : String) : String := File.join d.root name

/-- Does the name ask for the network? -/
def isRemote (name : String) : Bool :=
  "https://".toList.isPrefixOf name.toList || "http://".toList.isPrefixOf name.toList

/-- The text of a dataset.  A file that is missing is a dataset that is missing; whatever else is
wrong with a file is told as it is. -/
def fetch (d : InDirectory) (read : File.Reader) : Provider := fun name =>
  if isRemote name then .error (.remote name)
  else
    match read (d.path name) with
    | .ok text => .ok text
    | .error .missing => .error (.notFound name)
    | .error cause => .error (.unreadable name cause)

variable {d : InDirectory} {read : File.Reader} {name : String}

theorem fetch_of_isRemote (h : isRemote name = true) : d.fetch read name = .error (.remote name) :=
  if_pos h

theorem fetch_of_not_isRemote (h : isRemote name = false) :
    d.fetch read name =
      match read (d.path name) with
      | .ok text => .ok text
      | .error .missing => .error (.notFound name)
      | .error cause => .error (.unreadable name cause) := by
  unfold fetch
  rw [h, if_neg Bool.false_ne_true]

end InDirectory

end Dataset
end VarStore
