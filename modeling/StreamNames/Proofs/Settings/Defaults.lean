import Mathlib.Data.List.Basic
import StreamNames.Settings.Document

/-!
# The document of the defaults

What is used where a single setting is missing is said beside its reading, and what is used
where a whole table is missing is a record of its own. Both agree. The document that is
written where settings are missing spells out the defaults, so it is read back as these.

- `FieldSettings.ofToml?_nil` and its kind: a table that says nothing gives the defaults.
- `Toml.parse_eq_membersOf?`: a document without a byte order mark is read by its lines.
- `Settings.toList_document`: the characters of the document that spells out settings.
- `Settings.load_defaultDocument`: that of the defaults is read back as the defaults.
-/

namespace StreamNames

/-! ## Tables that say nothing -/

section

variable (form : TableForm)

/-- **An empty table gives the defaults of its record.** So do the empty tables below. -/
theorem FieldSettings.ofToml?_nil : ofToml? (.table form []) = some default := rfl

theorem PatternSettings.ofToml?_nil : ofToml? (.table form []) = some default := rfl

theorem EngineSettings.ofToml?_nil : ofToml? (.table form []) = some default := rfl

end

/-! ## Documents by their characters -/

/-- The members of a document that is read from its first character on. -/
def Toml.membersOf? (document : List Char) : Option Toml.Members :=
  (TomlReader.readLines (document.length + 1) ⟨[], []⟩).run' document

/-- Without a byte order mark a document is read from its first character on. -/
theorem Toml.parse_eq_membersOf? {document : String}
    (h : document.toList.head? ≠ some '\ufeff') :
    Toml.parse document = Toml.membersOf? document.toList := by
  unfold Toml.parse Toml.membersOf?
  split
  · next heq =>
    rw [heq] at h
    exact absurd rfl h
  · rfl

namespace Settings

/-- The characters of a table as it is written. -/
def tableChars (table : String × List (String × String)) : List Char :=
  '[' :: (table.1.toList ++ ']' :: '\n' :: table.2.flatMap fun (name, value) =>
    name.toList ++ ' ' :: '=' :: ' ' :: (value.toList ++ ['\n']))

theorem toList_writeTable (table : String × List (String × String)) :
    (writeTable table).toList = tableChars table := by
  have hopen : "[".toList = ['['] := by decide
  have hclose : "]\n".toList = [']', '\n'] := by decide
  have hequals : " = ".toList = [' ', '=', ' '] := by decide
  have hend : "\n".toList = ['\n'] := by decide
  simp only [writeTable, tableChars, String.toList_append, String.toList_join, List.flatMap_map,
    hopen, hclose, hequals, hend, List.append_assoc, List.cons_append, List.nil_append]

/-- The characters of a document are those of its tables. -/
theorem toList_document (s : Settings) :
    s.document.toList = ['\n'].intercalate (s.tables.map tableChars) := by
  have hend : "\n".toList = ['\n'] := by decide
  rw [document, String.toList_intercalate, List.map_map, hend]
  exact congrArg _ (List.map_congr_left fun table _ => toList_writeTable table)

/-- Settings are loaded if a document gives them and no limit is zero. -/
theorem load_eq_ok {document : String} {s : Settings}
    (hgiven : (Toml.parse document).bind ofToml? = some s) (hvalid : s.validate = .ok ()) :
    load document = .ok s := by
  unfold load
  simp only [hgiven, hvalid]

/-- **The document of the defaults is read back as the defaults.** -/
theorem load_defaultDocument : load defaultDocument = .ok default := by
  -- what is read are the characters of the tables; no text is put together from them first
  have hchars : defaultDocument.toList = ['\n'].intercalate (default.tables.map tableChars) :=
    toList_document default
  have hhead : (['\n'].intercalate (default.tables.map tableChars)).head? = some '[' := rfl
  have hsettings : (Toml.membersOf? (['\n'].intercalate (default.tables.map tableChars))).bind
      ofToml? = some default := by decide +kernel
  refine load_eq_ok ?_ rfl
  rw [Toml.parse_eq_membersOf?, hchars, hsettings]
  rw [hchars, hhead]
  decide

end Settings

end StreamNames
