/-
# Loading policies

A policy text is in YAML or in JSON. Loading one reads its document and accepts
it under a registry; what is wrong with the text itself is a fault of the
configuration. A policy file is in JSON if its name ends in `.json`, spelled
exactly so, and in YAML otherwise. Reading the file is the business of the host,
which hands over the octets or says why there are none.
-/

import TemplateSandbox.Json.Reading
import TemplateSandbox.Yaml.Reading

namespace TemplateSandbox

/-- The formats of policy texts. -/
inductive Format where
  | yaml
  | json
  deriving DecidableEq

namespace Format

/-- The name of a format in messages. -/
def label : Format → String
  | .yaml => "yaml"
  | .json => "json"

/-- The document that a text in this format holds. -/
def read : Format → String → Except Document.ReadFault Document
  | .yaml => Yaml.readDocument
  | .json => Json.readDocument

/-- Loads a policy text: the settings it stands for under a registry. -/
def load (format : Format) (text : String) (r : Registry) : Logged (Except Fault Settings) :=
  match format.read text with
  | .error f => .silent (.error (.badConfig (.unreadable format.label f.message)))
  | .ok document => document.accept r

/-- A text that holds a document is loaded as the document is accepted. -/
theorem load_of_read {format : Format} {text : String} {d : Document}
    (h : format.read text = .ok d) (r : Registry) : format.load text r = d.accept r := by
  rw [load, h]

/-- The last part of a path that names anything: parts that are empty or a single dot do not
count, and two dots name no file. -/
def fileName? (path : String) : Option (List Char) :=
  let parts := path.toList.splitOn '/'
  match (parts.filter fun part => !part.isEmpty && part != ['.']).getLast? with
  | some name => if name == ['.', '.'] then none else some name
  | none => none

/-- What follows the last dot of a file name; a dot at its start does not count. -/
def extension? (name : List Char) : Option (List Char) :=
  if name.tail.contains '.' then some (name.reverse.takeWhile (· != '.')).reverse else none

/-- The format of a policy file with this path. -/
def ofPath (path : String) : Format :=
  if (fileName? path).bind extension? = some "json".toList then .json else .yaml

/-- Loads a policy file from what was read of it: its octets, or why it could not be read. -/
def loadFile (path : String) (content : Except String ByteArray) (r : Registry) :
    Logged (Except Fault Settings) :=
  match content with
  | .error why => .silent (.error (.internal (.unreadableFile path why)))
  | .ok octets =>
    match String.fromUTF8? octets with
    | none =>
      .silent (.error (.internal (.unreadableFile path "stream did not contain valid UTF-8")))
    | some text => (ofPath path).load text r

end Format

/-- Goes on from settings that were loaded to a sandbox that was started with them. -/
def Sandbox.ofLoaded (loaded : Logged (Except Fault Settings)) : Logged (Except Fault Sandbox) :=
  loaded.andThen fun
    | .error fault => .silent (.error fault)
    | .ok settings => let s := Sandbox.start settings; ⟨.ok s.value, s.events⟩

end TemplateSandbox
