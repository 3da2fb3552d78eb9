import Catalog.Files.Disk
import Catalog.Log
import Catalog.Model
import Catalog.Text.Quoted

set_option autoImplicit false

namespace Catalog

inductive SaveFault where
  | emptyPath (id : UInt32)
  | outside (path directory : String)
  | create (directory : String) (error : IoError)
  | write (path : String) (error : IoError)
  deriving DecidableEq, Repr

def SaveFault.message : SaveFault → String
  | .emptyPath id => "Content item " ++ toString id ++ " has an empty path"
  | .outside path directory => "Refusing to write " ++ Text.quoted path ++ " outside " ++ directory
  | .create directory _ => "Failed to create " ++ directory
  | .write path _ => "Failed to write " ++ path

def SaveFault.causes : SaveFault → List String
  | .create _ error | .write _ error => [error.message]
  | .emptyPath _ | .outside _ _ => []

def ContentItem.refusal? (item : ContentItem) (directory : String) : Option SaveFault :=
  if (Path.components item.path.toList).isEmpty then some (.emptyPath item.id)
  else if Path.staysBelow item.path.toList then none
  else some (.outside item.path directory)

def ContentItem.target (item : ContentItem) (directory : String) : String :=
  String.ofList (Path.below directory.toList item.path.toList)

def neededDirectory? (path : String) : Option String :=
  match Path.parent? path.toList with
  -- An empty parent is the working directory, which is there.
  | some (c :: rest) => some (String.ofList (c :: rest))
  | _ => none

def savedEvent (path : String) (size : Nat) : Event :=
  ⟨.debug, none, "content saved", [("path", path), ("bytes", toString size)]⟩

section

variable {m : Type → Type} [Monad m]

def Disk.prepare (disk : Disk m) (path : String) : ExceptT SaveFault m Unit :=
  match neededDirectory? path with
  | none => pure ()
  | some directory => ExceptT.mk do return (← disk.makeDirectories directory).mapError (.create directory)

def ContentItem.save (item : ContentItem) (disk : Disk m) (record : Event → m Unit) (directory : String)
    (bytes : List UInt8) : ExceptT SaveFault m String :=
  match item.refusal? directory with
  | some fault => throw fault
  | none => do
    let path := item.target directory
    disk.prepare path
    ExceptT.mk do return (← disk.writeFile path bytes).mapError (.write path)
    ExceptT.lift (record (savedEvent path bytes.length))
    return path

end

end Catalog
