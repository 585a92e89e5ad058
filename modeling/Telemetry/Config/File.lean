import Telemetry.Config.Store
import Telemetry.Files.Disk
import Telemetry.Json.Value
import Telemetry.Json.Writer
import Telemetry.Text.Blank

/-! A configuration store in a file: a JSON object from labels to values, written anew on every change. -/
namespace Telemetry

/-- Values by label, in ascending order of labels, with the disk that their file is on. -/
structure FileStore where
  path : String
  values : List (String × UInt16)
  disk : Disk
  deriving DecidableEq, Repr

namespace FileStore

/-- Puts a value under its label, keeping the order. -/
def insertLabel (label : String) (value : UInt16) : List (String × UInt16) → List (String × UInt16)
  | [] => [(label, value)]
  | (other, held) :: rest =>
    if label < other then (label, value) :: (other, held) :: rest
    else if label = other then (label, value) :: rest
    else (other, held) :: insertLabel label value rest

/-- Gives a label the value back that it had, or takes it out if it had none. -/
def putBack (label : String) (previous : Option UInt16) (values : List (String × UInt16)) :
    List (String × UInt16) :=
  match previous with
  | some held => insertLabel label held values
  | none => values.filter (·.1 ≠ label)

/-- The file's text for some values. -/
def render (values : List (String × UInt16)) : String :=
  Json.writeObject .pretty (values.map fun (label, value) => (label, .number value.toNat))

/-- One member of the file's object. -/
def readMember (member : Option String × Json.Value) : Option (String × UInt16) := do
  let label ← member.1
  let value ← member.2.natural? UInt16.size
  return (label, .ofNat value)

/-- Values in a file's text; the last of several with one label counts. -/
def parse (text : String) : Option (List (String × UInt16)) :=
  if Text.isBlankText text then some []
  else
    match Json.parse text with
    | some (.object members) =>
      (members.mapM readMember).map
        (·.foldl (fun values (label, value) => insertLabel label value values) [])
    | _ => none

/-- The store in a file. A missing file is an empty store. -/
def load (path : String) (disk : Disk) : Except StoreError FileStore :=
  match disk.readText path with
  | .error .notFound => .ok ⟨path, [], disk⟩
  | .error error => .error (.io error.message)
  | .ok text =>
    match parse text with
    | some values => .ok ⟨path, values, disk⟩
    | none => .error (.notJson "expected an object of 16-bit values")

def get (store : FileStore) (key : ConfigKey) : Option UInt16 :=
  store.values.lookup key.label

/-- Changes a value and the file. The value is changed first, and what it was is put back when the file
cannot be written. -/
def set (store : FileStore) (key : ConfigKey) (value : UInt16) :
    Except StoreError Unit × FileStore :=
  match key.check value with
  | .error error => (.error error, store)
  | .ok () =>
    let previous := store.values.lookup key.label
    let values := insertLabel key.label value store.values
    match store.disk.save store.path (.text (render values)) with
    | (.ok (), disk) => (.ok (), { store with values, disk })
    | (.error error, disk) =>
      (.error (.io error.message), { store with values := putBack key.label previous values, disk })

instance : ConfigStore FileStore := ⟨get, set⟩

end FileStore

end Telemetry
