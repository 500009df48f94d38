import MarkupLayout.Settings.StyleSection
import MarkupLayout.Text.Utf8

/-!
# Settings in a folder

A folder may hold a settings file and a local one that replaces it as a whole. Files are in UTF-8;
a byte order mark belongs to the first line. A directory in the place of a settings file reads as
an empty file.
-/

namespace MarkupLayout
namespace Settings

/-- What a name in a folder stands for. -/
inductive Item where
  | directory
  | file (bytes : List UInt8)
  deriving DecidableEq, Repr

/-- A folder and what it holds, by name. -/
structure Folder where
  path : Text
  items : List (Text × Item)
  deriving DecidableEq, Repr

namespace Folder

/-- Why no style can be read from a folder. -/
inductive Fault where
  /-- The folder holds no settings file. -/
  | noFile (path : Text)
  /-- The settings file is not in UTF-8. -/
  | notUtf8 (file : Text)
  /-- The settings file is not a settings document. -/
  | document (file : Text) (fault : Document.Fault)
  /-- An option of the style cannot be filled in. -/
  | option (fault : OptionFault)
  deriving DecidableEq, Repr

/-- The wording of a fault. -/
def Fault.message : Fault → Text
  | noFile path => "Missing htmlformatter.ini file in ".toList ++ path
  | notUtf8 file => "Ill-formed UTF-8 in ".toList ++ file.quote
  | document file fault => fault.message file
  | option fault => fault.message

/-- The names of settings files. The first one that a folder holds counts. -/
def fileNames : List Text := ["htmlformatter.local.ini".toList, "htmlformatter.ini".toList]

/-- The settings file of a folder, with its name. -/
def settingsFile? (folder : Folder) : Option (Text × Item) :=
  fileNames.findSome? fun name => (folder.items.lookup name).map (name, ·)

/-- The settings document of a folder: `read_config_file`, specification §10.3. -/
def document (folder : Folder) : Except Fault Document :=
  match folder.settingsFile? with
  | none => .error (.noFile folder.path)
  | some (_, .directory) => .ok {}
  | some (name, .file bytes) =>
    let file := folder.path ++ '/' :: name
    match Utf8.decode? bytes with
    | none => .error (.notUtf8 file)
    | some t => (Document.read t).mapError (.document file)

/-- The style that the settings of a folder describe. -/
def style (folder : Folder) : Except Fault Style := do
  (← folder.document).style.mapError .option

end Folder
end Settings
end MarkupLayout
