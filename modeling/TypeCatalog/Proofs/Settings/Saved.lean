import Mathlib.Data.List.TakeDrop
import TypeCatalog.Proofs.Result
import TypeCatalog.Proofs.Toml.Text
import TypeCatalog.Settings.Load

/-!
# Saved settings

`Settings.saved` writes settings as a TOML document of six lines: the `domain`, and the tables
`documentation` and `engine` with their flags. `Settings.save` puts the document at a path, and
`Settings.loadFrom` reads the settings off the files.

`Settings.loadFrom_saved` proves the main fact. Take a path with the extension of TOML, and suppose
that no other file is where `loadFrom` looks (`AreElsewhere`) and that no variable of the
environment begins with `Layer.mark`. Then what is loaded from the path are the settings that were
saved there. This holds whatever the domain is: `Text.written` chooses the quotes so that any text
is read as it was, and a text in quotes is never taken for a number or a boolean.

The extension is needed. `SettingsFormat.ofPath?` chooses the format by it, and the document is
written in TOML whatever the path is. `Settings.loadFrom_save_ne_ok` shows that it is not loaded
from a path with the extension of JSON, nor from one with an extension of no format.

The document is made of the headers of tables and of values of bare keys, and `Toml.statements?`
reads it statement by statement. Each line begins with a character that no blank, comment or line
break begins with (`Toml.IsInk`), so what is skipped in front of a line ends where the line begins.
The path may be one of the usual places. Then the file is read more than once, and
`Settings.foldl_overlay_layer` shows that a layer over itself is the layer.
-/

set_option autoImplicit false

namespace TypeCatalog.Toml

/-! ## Lines -/

/-- A line that opens a table, behind an empty one. -/
def headerLine (name : String) : List Char := ['\n', '['] ++ name.toList ++ [']', '\n']

/-- A line that gives a key a written value. -/
def assignmentLine (name : String) (written : List Char) : List Char :=
  name.toList ++ [' ', '=', ' '] ++ written ++ ['\n']

/-- Whether a key is written without quotes. -/
def IsBare (name : String) : Prop := name.toList ≠ [] ∧ name.toList.all isKeyChar = true

instance (name : String) : Decidable (IsBare name) := inferInstanceAs (Decidable (_ ∧ _))

/-- Whether a character begins nothing that is skipped. -/
def IsInk (c : Char) : Prop := isBlank c = false ∧ c ≠ '#' ∧ c ≠ '\n' ∧ c ≠ '\r'

/-- A character of a bare key is none that cannot stand in one. -/
theorem ne_of_isKeyChar {c d : Char} (hc : isKeyChar c = true) (hd : isKeyChar d = false) :
    c ≠ d := by
  rintro rfl
  exact Bool.noConfusion (hc.symm.trans hd)

/-- Nothing that is skipped in front of a statement begins with a character of a bare key. -/
theorem isInk_of_isKeyChar {c : Char} (h : isKeyChar c = true) : IsInk c := by
  refine ⟨?_, ne_of_isKeyChar h rfl, ne_of_isKeyChar h rfl, ne_of_isKeyChar h rfl⟩
  simp [isBlank, ne_of_isKeyChar h (d := ' ') rfl, ne_of_isKeyChar h (d := '\t') rfl]

/-- A bare key has a first character, which is one of those that a bare key may have. -/
theorem IsBare.exists_cons {name : String} (h : IsBare name) :
    ∃ c cs, name.toList = c :: cs ∧ isKeyChar c = true := by
  obtain ⟨c, cs, heq⟩ := List.exists_cons_of_ne_nil h.1
  exact ⟨c, cs, heq, List.all_eq_true.1 h.2 c (heq ▸ List.mem_cons_self)⟩

/-! ## What is skipped -/

/-- No blank is skipped where none stands. -/
theorem skipBlanks_cons {c : Char} (h : isBlank c = false) (cs : List Char) :
    skipBlanks (c :: cs) = c :: cs :=
  List.dropWhile_cons_of_neg (by simp [h])

/-- Nor is a blank line or a comment where a line begins. -/
theorem IsInk.skipLines {c : Char} (h : IsInk c) (rounds : Nat) (cs : List Char) :
    skipLines rounds (c :: cs) = c :: cs := by
  cases rounds with
  | zero => rfl
  | succ rounds =>
      have hcomment : skipComment (c :: cs) = c :: cs := if_neg (by simpa using h.2.1)
      have hbreak : lineBreak? (c :: cs) = none := by
        unfold lineBreak?
        split
        · next heq => exact absurd (List.head_eq_of_cons_eq heq) h.2.2.1
        · next heq => exact absurd (List.head_eq_of_cons_eq heq) h.2.2.2
        · rfl
      rw [Toml.skipLines, skipBlanks_cons h.1, hcomment, hbreak]

/-! ## Keys -/

/-- Characters of a class end where the first other one is. -/
theorem span_append {p : Char → Bool} {cs : List Char} (h : cs.all p = true) {d : Char}
    (hd : p d = false) (rest : List Char) : (cs ++ d :: rest).span p = (cs, d :: rest) := by
  have h : ∀ c ∈ cs, p c = true := List.all_eq_true.1 h
  have hd : ¬ p d = true := Bool.eq_false_iff.1 hd
  rw [List.span_eq_takeWhile_dropWhile, List.takeWhile_append_of_pos h,
    List.dropWhile_append_of_pos h, List.takeWhile_cons_of_neg hd, List.dropWhile_cons_of_neg hd,
    List.append_nil]

/-- A bare key is a key of one part, when no dot follows. -/
theorem key?_bare {name : String} (hname : IsBare name) {c d : Char} {cs rest : List Char}
    (hc : isKeyChar c = false) (hrest : skipBlanks (c :: cs) = d :: rest) (hdot : d ≠ '.') :
    key? (name.toList ++ c :: cs) = some ([name], d :: rest) := by
  have hpart : keyPart? (skipBlanks (name.toList ++ c :: cs)) = some (name, c :: cs) := by
    obtain ⟨first, others, heq, hfirst⟩ := hname.exists_cons
    have hblanks : skipBlanks (name.toList ++ c :: cs) = name.toList ++ c :: cs := by
      rw [heq, List.cons_append, skipBlanks_cons (isInk_of_isKeyChar hfirst).1]
    rw [hblanks, keyPart?, span_append hname.2 hc]
    dsimp only
    rw [if_neg (by simpa using hname.1), String.ofList_toList]
  rw [key?, depthLimit, keyParts?, hpart]
  dsimp only
  rw [hrest]
  split
  · next heq => exact absurd (List.head_eq_of_cons_eq heq) hdot
  · rfl

/-! ## Values -/

/-- A written text begins with a quote. -/
theorem exists_writtenChars (cs : List Char) :
    ∃ c rest, Text.writtenChars cs = c :: rest ∧ (c = '"' ∨ c = Text.tick) := by
  unfold Text.writtenChars
  cases Text.formOf cs with
  | basic => exact ⟨_, _, rfl, .inl rfl⟩
  | literal => exact ⟨_, _, rfl, .inr rfl⟩
  | multilineBasic => exact ⟨_, _, rfl, .inl rfl⟩
  | multilineLiteral => exact ⟨_, _, rfl, .inr rfl⟩

/-- A value that begins with a quote is a text. -/
theorem value?_quote {c : Char} (hquote : c = '"' ∨ c = Text.tick) (levels rounds : Nat)
    (cs : List Char) : value? levels (rounds + 1) (c :: cs)
      = (Text.read (c :: cs)).map fun (s, rest) => (.string (String.ofList s), rest) := by
  have hbracket : c ≠ '[' := by rcases hquote with rfl | rfl <;> decide
  have hbrace : c ≠ openBrace := by rcases hquote with rfl | rfl <;> decide
  rw [value?, if_neg hbrace, if_pos hquote]
  exact fun h => absurd h hbracket

/-- A value that begins with a letter is a word. -/
theorem value?_letter {c : Char} (hletter : Ascii.isLetter c = true) (levels rounds : Nat)
    (cs : List Char) : value? levels (rounds + 1) (c :: cs)
      = (Scalar.read? (Scalar.word (c :: cs)).1).map fun v => (v, (Scalar.word (c :: cs)).2) := by
  have hne {d : Char} (hd : Ascii.isLetter d = false) : c ≠ d := by
    rintro rfl
    exact Bool.noConfusion (hletter.symm.trans hd)
  rw [value?, if_neg (hne rfl), if_neg (not_or.2 ⟨hne rfl, hne rfl⟩)]
  exact fun h => absurd h (hne rfl)

/-- Whether some characters are a value as it is written at the end of a line. -/
def Writes (written : List Char) (v : Toml) : Prop :=
  ∀ levels rounds rest, value? levels (rounds + 1) (skipBlanks (' ' :: (written ++ '\n' :: rest)))
    = some (v, '\n' :: rest)

/-- A text in quotes is read as the text. -/
theorem writes_text (cs : List Char) :
    Writes (Text.writtenChars cs) (.string (String.ofList cs)) := by
  intro levels rounds rest
  have hread : Text.read (Text.writtenChars cs ++ '\n' :: rest) = some (cs, '\n' :: rest) :=
    Text.read_writtenChars cs (fun h => by cases h) (fun h => by cases h)
  obtain ⟨c, behind, heq, hquote⟩ := exists_writtenChars cs
  have hblank : isBlank c = false := by rcases hquote with rfl | rfl <;> rfl
  rw [heq, List.cons_append] at hread ⊢
  rw [skipBlanks, List.dropWhile_cons_of_pos rfl, ← skipBlanks, skipBlanks_cons hblank,
    value?_quote hquote, hread]
  rfl

/-- A boolean is read as the boolean. -/
theorem writes_boolean (b : Bool) :
    Writes (if b then "true" else "false").toList (.boolean b) := by
  intro levels rounds rest
  have hword (cs : List Char) (h : cs.all Scalar.isWordChar = true) :
      Scalar.word (cs ++ '\n' :: rest) = (cs, '\n' :: rest) := by
    rw [Scalar.word, span_append h rfl]
    rfl
  cases b with
  | true =>
      have hvalue := value?_letter (c := 't') rfl levels rounds ("rue".toList ++ '\n' :: rest)
      rw [← List.cons_append, hword _ rfl] at hvalue
      exact hvalue
  | false =>
      have hvalue := value?_letter (c := 'f') rfl levels rounds ("alse".toList ++ '\n' :: rest)
      rw [← List.cons_append, hword _ rfl] at hvalue
      exact hvalue

/-! ## Statements -/

/-- A line with a bare key and a value is the statement that assigns the value to the key. -/
theorem statement?_assignment {name : String} (hname : IsBare name) {written : List Char} {v : Toml}
    (hwrites : Writes written v) (rest : List Char) :
    statement? (assignmentLine name written ++ rest) = some (.assign [name] v, '\n' :: rest) := by
  have heq : assignmentLine name written ++ rest
      = name.toList ++ ' ' :: '=' :: ' ' :: (written ++ '\n' :: rest) := by
    simp [assignmentLine]
  have hkey : key? (name.toList ++ ' ' :: '=' :: ' ' :: (written ++ '\n' :: rest))
      = some ([name], '=' :: ' ' :: (written ++ '\n' :: rest)) :=
    key?_bare hname rfl rfl (by decide)
  have hbracket (cs : List Char) :
      name.toList ++ ' ' :: '=' :: ' ' :: (written ++ '\n' :: rest) ≠ '[' :: cs := by
    obtain ⟨first, others, hfirst, hchar⟩ := hname.exists_cons
    rw [hfirst]
    exact fun h => ne_of_isKeyChar hchar rfl (List.head_eq_of_cons_eq h)
  rw [heq, statement?]
  · rw [hkey]
    exact congrArg (Option.map fun r => (Statement.assign [name] r.1, r.2))
      (hwrites depthLimit _ rest)
  · exact fun cs h => hbracket _ h
  · exact fun cs h => hbracket _ h

/-- A line with a name in brackets is the statement that opens the table of the name. -/
theorem statement?_header {name : String} (hname : IsBare name) (rest : List Char) :
    statement? ('[' :: (name.toList ++ ']' :: '\n' :: rest))
      = some (.header [name], '\n' :: rest) := by
  have hkey : key? (name.toList ++ ']' :: '\n' :: rest) = some ([name], ']' :: '\n' :: rest) :=
    key?_bare hname rfl rfl (by decide)
  rw [statement?, hkey]
  · rfl
  · intro cs h
    obtain ⟨first, others, hfirst, hchar⟩ := hname.exists_cons
    rw [hfirst] at h
    exact ne_of_isKeyChar hchar rfl (List.head_eq_of_cons_eq h)

/-- At the end of a document there are no more statements. -/
theorem statements?_nil (rounds : Nat) : statements? (rounds + 1) [] = some [] := rfl

/-- The statement that a document begins with, when lines that are skipped stand in front of it. -/
theorem statements?_of_statement? {cs line rest : List Char} {s : Statement}
    (hskip : skipLines cs.length cs = line) (hstatement : statement? line = some (s, '\n' :: rest))
    (rounds : Nat) : statements? (rounds + 1) cs = (statements? rounds rest).map (s :: ·) := by
  rw [statements?, hskip]
  split
  · cases hstatement
  · rw [hstatement]
    rfl

/-- A line that gives a key a value is one statement. -/
theorem statements?_assignment {name : String} (hname : IsBare name) {written : List Char}
    {v : Toml} (hwrites : Writes written v) (rounds : Nat) (rest : List Char) :
    statements? (rounds + 1) (assignmentLine name written ++ rest)
      = (statements? rounds rest).map (.assign [name] v :: ·) := by
  refine statements?_of_statement? ?_ (statement?_assignment hname hwrites rest) rounds
  obtain ⟨first, others, hfirst, hchar⟩ := hname.exists_cons
  rw [assignmentLine, hfirst]
  exact (isInk_of_isKeyChar hchar).skipLines _ _

/-- The header of a table is one statement, and the empty line in front of it none. -/
theorem statements?_header {name : String} (hname : IsBare name) (rounds : Nat)
    (rest : List Char) : statements? (rounds + 1) (headerLine name ++ rest)
      = (statements? rounds rest).map (.header [name] :: ·) := by
  have heq : headerLine name ++ rest = '\n' :: '[' :: (name.toList ++ ']' :: '\n' :: rest) := by
    simp [headerLine]
  refine statements?_of_statement? ?_ (statement?_header hname rest) rounds
  have hink : IsInk '[' := ⟨rfl, by decide, by decide, by decide⟩
  rw [heq]
  exact hink.skipLines _ _

end TypeCatalog.Toml

namespace TypeCatalog.Settings

open Toml

/-! ## The document -/

/-- The table that settings are saved as. -/
def layer (s : Settings) : Layer :=
  [("domain", .string s.domain),
   ("documentation", .table [("enabled", .boolean s.documentation)]),
   ("engine", .table
    [("validate_formats", .boolean s.validateFormats), ("parallel", .boolean s.parallel)])]

variable (s : Settings)

/-- The document in lines. -/
theorem toList_saved : s.saved.toList
    = assignmentLine "domain" (Text.writtenChars s.domain.toList) ++ (headerLine "documentation"
      ++ (assignmentLine "enabled" (flagText s.documentation).toList ++ (headerLine "engine"
        ++ (assignmentLine "validate_formats" (flagText s.validateFormats).toList
          ++ (assignmentLine "parallel" (flagText s.parallel).toList ++ []))))) := by
  simp [saved, Text.written, assignmentLine, headerLine]

/-- The statements of the document. -/
def statements : List Statement :=
  [.assign ["domain"] (.string s.domain), .header ["documentation"],
   .assign ["enabled"] (.boolean s.documentation), .header ["engine"],
   .assign ["validate_formats"] (.boolean s.validateFormats),
   .assign ["parallel"] (.boolean s.parallel)]

/-- The document of the settings is read as its statements, one for each of its seven lines. -/
theorem statements?_saved (rounds : Nat) :
    statements? (rounds + 7) s.saved.toList = some s.statements := by
  have hdomain : Writes (Text.writtenChars s.domain.toList) (.string s.domain) := by
    simpa using writes_text s.domain.toList
  have hflag (b : Bool) : Writes (flagText b).toList (.boolean b) := writes_boolean b
  rw [toList_saved, statements?_assignment (by decide) hdomain,
    statements?_header (by decide), statements?_assignment (by decide) (hflag _),
    statements?_header (by decide), statements?_assignment (by decide) (hflag _),
    statements?_assignment (by decide) (hflag _), statements?_nil]
  rfl

/-- These statements put the settings into the entries that `layer` has. -/
theorem perform_statements :
    (s.statements.foldlM perform ([], [])).map (fun (_, es) => Node.entriesToToml es)
      = some s.layer := rfl

/-- The document is read as `Settings.layer`. -/
theorem parse?_saved : Toml.parse? s.saved = some s.layer := by
  -- The document begins with a letter, and not with a mark of the byte order.
  obtain ⟨first, rest, hchars, hmark⟩ :
      ∃ c cs, s.saved.toList = c :: cs ∧ c.toNat ≠ 0xFEFF := by
    rw [toList_saved]
    exact ⟨'d', _, rfl, by decide⟩
  -- There are rounds enough: one for each of the six statements, and one for the end.
  obtain ⟨rounds, hlength⟩ : ∃ rounds, (first :: rest).length = rounds + 6 := by
    refine Nat.exists_eq_add_of_le' ?_
    rw [← hchars, toList_saved]
    simp [assignmentLine, headerLine]
  have hstatements := s.statements?_saved rounds
  rw [Toml.parse?, hchars]
  dsimp only
  rw [if_neg hmark, hlength, ← hchars, hstatements]
  exact s.perform_statements

/-! ## The layer -/

/-- The names of the table lead to its entries. -/
theorem path_of_mem_layer {name : String} (h : name ∈ ["domain", "documentation", "engine"]) :
    Layer.path name = [.name name] := by
  revert name
  decide

/-- The names of the tables are in small letters. -/
theorem lowered_name {name : String} (h : name ∈ ["domain", "documentation", "engine", "enabled",
    "validate_formats", "parallel"]) : Layer.lowered name = name := by
  revert name
  decide

/-- The layer of the settings replaces all of a layer that is empty or the same. -/
theorem overlay_layer {earlier : Layer} (h : earlier = Layer.empty ∨ earlier = s.layer) :
    Layer.overlay earlier s.layer = s.layer := by
  rcases h with rfl | rfl <;>
    simp [Layer.overlay, layer, path_of_mem_layer, lowered_name, Layer.put, Layer.empty,
      Layer.entriesOf, Layer.valueOver, Layer.entriesOver, Layer.set, List.lookup_cons]

/-- The settings are taken out of their layer again by `ofLayer?`. -/
theorem ofLayer?_layer : ofLayer? s.layer = some s := by
  simp [ofLayer?, layer, List.lookup_cons, text?, flags?, flagOr, flag?]

/-! ## The document alone -/

/-- No layer comes from an environment without a variable that begins with the mark. -/
theorem ofEnvironment_eq_nil {environment : List (String × String)}
    (h : ∀ v ∈ environment, ¬ Layer.mark <+: v.1.toList.map Ascii.lower) :
    Layer.ofEnvironment environment = [] := by
  rw [Layer.ofEnvironment, List.filterMap_eq_nil_iff]
  intro v hv
  exact if_neg fun hmark => h v hv (List.isPrefixOf_iff_prefix.1 hmark)

/-- An empty layer over another one leaves it as it is. -/
theorem overlay_empty (earlier : Layer) : Layer.overlay earlier Layer.empty = earlier := rfl

/-- Layers that are empty or all the same give that same layer, when the last one is not empty. -/
theorem foldl_overlay_layer {layers : List Layer} {earlier : Layer}
    (hearlier : earlier = Layer.empty ∨ earlier = s.layer)
    (h : ∀ l ∈ layers, l = Layer.empty ∨ l = s.layer) :
    (layers ++ [s.layer]).foldl Layer.overlay earlier = s.layer := by
  induction layers generalizing earlier with
  | nil => rw [List.nil_append, List.foldl_cons, List.foldl_nil, s.overlay_layer hearlier]
  | cons l layers ih =>
      rw [List.cons_append, List.foldl_cons]
      refine ih ?_ fun l hl => h l (List.mem_cons_of_mem _ hl)
      rcases h l List.mem_cons_self with rfl | rfl
      · rwa [overlay_empty]
      · exact .inr (s.overlay_layer hearlier)

/-- `ofLayers?` gives the settings when each file holds their document or nothing at all, the last
one holds the document, and the environment has no variable of settings. -/
theorem ofLayers?_layer {layers : List Layer} {environment : List (String × String)}
    (h : ∀ l ∈ layers, l = Layer.empty ∨ l = s.layer)
    (henvironment : ∀ v ∈ environment, ¬ Layer.mark <+: v.1.toList.map Ascii.lower) :
    ofLayers? (layers ++ [s.layer]) environment = some s := by
  rw [ofLayers?, s.foldl_overlay_layer (.inl rfl) h, ofEnvironment_eq_nil henvironment]
  exact s.ofLayer?_layer

end TypeCatalog.Settings

namespace TypeCatalog.Settings

open Command (TextFile)

variable {s : Settings} {reader : SettingsReader} {user path : String} {files : List TextFile}

/-! ## Where a file is found -/

/-- `TextFile.find?` takes the file that was saved last, and looks among the others where the path
is another one. -/
theorem find?_save (q : String) : TextFile.find? q (s.save path files)
    = if TextFile.plainParts path = TextFile.plainParts q then some ⟨path, s.saved⟩
      else TextFile.find? q files := by
  rw [TextFile.find?, save, List.reverse_append]
  by_cases h : TextFile.plainParts path = TextFile.plainParts q
  · rw [if_pos h]
    exact List.find?_cons_of_pos (by simpa using h)
  · rw [if_neg h]
    exact List.find?_cons_of_neg (by simpa using h)

/-- Whether none of some files is where `loadFrom` looks when no file is named. -/
def AreElsewhere (reader : SettingsReader) (user : String) (files : List TextFile) : Prop :=
  ∀ q ∈ lookedAt reader user none, ∀ f ∈ files,
    TextFile.plainParts f.path ≠ TextFile.plainParts q

instance : Decidable (AreElsewhere reader user files) :=
  inferInstanceAs (Decidable (∀ q ∈ _, ∀ f ∈ _, _ ≠ _))

/-- Each usual place is looked at, and the place of the user is. -/
theorem mem_lookedAt {q : String} (h : q ∈ places ∨ q = user) :
    q ∈ lookedAt reader user none := by
  rcases h with h | rfl
  · refine List.mem_append_left _ (List.mem_append_left _ ?_)
    exact List.mem_flatMap.2 ⟨q, h, List.mem_cons_self⟩
  · exact List.mem_append_left _ (List.mem_append_right _ (List.mem_singleton_self q))

/-- So are the usual places with an extension behind. -/
theorem mem_lookedAt_of_mem_withExtensions {p q : String} {m : SettingsFormat} (hp : p ∈ places)
    (h : (m, q) ∈ TextFile.withExtensions reader.order p) : q ∈ lookedAt reader user none := by
  refine List.mem_append_left _ (List.mem_append_left _ ?_)
  refine List.mem_flatMap.2 ⟨p, hp, List.mem_cons_of_mem _ ?_⟩
  exact List.mem_map.2 ⟨_, h, rfl⟩

/-- What is found where nobody else has a file is the file that was saved. -/
theorem eq_of_find?_save (h : AreElsewhere reader user files) {q : String}
    (hq : q ∈ lookedAt reader user none) {f : TextFile}
    (hf : TextFile.find? q (s.save path files) = some f) :
    f.content = s.saved ∧ TextFile.plainParts path = TextFile.plainParts q := by
  rw [find?_save] at hf
  split at hf
  · next heq =>
      cases hf
      exact ⟨rfl, heq⟩
  · refine absurd (List.find?_some hf) ?_
    simpa using h q hq f (List.mem_reverse.1 (List.mem_of_find?_eq_some hf))

/-! ## Which format it is read in -/

/-- `SettingsFormat.ofPath?` depends on where a path leads, and not on how it is written. -/
theorem ofPath?_congr {p q : String} (h : TextFile.plainParts p = TextFile.plainParts q) :
    SettingsFormat.ofPath? p = SettingsFormat.ofPath? q := by
  rw [SettingsFormat.ofPath?, TextFile.pathExtension?, h]
  rfl

/-- A usual place with the extension of a format behind it is read in that format. -/
theorem ofPath?_of_mem_withExtensions {order : List SettingsFormat} {p q : String}
    {m : SettingsFormat} (hp : p ∈ places) (h : (m, q) ∈ TextFile.withExtensions order p) :
    SettingsFormat.ofPath? q = some m := by
  have hplaces : ∀ p ∈ places, ∀ m ∈ SettingsFormat.all, ∀ e ∈ m.extensions,
      SettingsFormat.ofPath? (TextFile.tidy p ++ "." ++ e) = some m := by
    decide
  rw [TextFile.withExtensions] at h
  split at h
  · cases h
  · obtain ⟨m, hm, h⟩ := List.mem_flatMap.1 h
    obtain ⟨e, he, heq⟩ := List.mem_map.1 h
    cases heq
    exact hplaces p hp m (by cases m <;> decide) e he

/-! ## The layers -/

/-- The saved document is read in TOML as the layer of the settings. -/
theorem read_saved (p : String) : reader.read .toml ⟨p, s.saved⟩ = .ok s.layer := by
  rw [SettingsReader.read, s.parse?_saved]

/-- What `locate` finds where nobody else has a file is read as the saved settings: at the path
itself lies the saved file in the format of its own extension, and behind a usual place stands the
extension of the format that is tried. -/
theorem read_of_locate_save (hpath : SettingsFormat.ofPath? path = some .toml)
    (h : AreElsewhere reader user files) {p : String} (hp : p ∈ lookedAt reader user none)
    (hplace : TextFile.find? p (s.save path files) = none → p ∈ places)
    {m : SettingsFormat} {f : TextFile}
    (hlocate : locate reader (s.save path files) p = .ok (m, f)) :
    reader.read m f = .ok s.layer := by
  suffices hsaved : m = .toml ∧ f.content = s.saved by
    rw [hsaved.1, show f = ⟨f.path, s.saved⟩ from hsaved.2 ▸ rfl, read_saved]
  -- A file lies at the path itself, and only the saved one does.
  rw [locate] at hlocate
  split at hlocate
  · next hfind =>
      obtain ⟨hcontent, hparts⟩ := eq_of_find?_save h hp hfind
      rw [← ofPath?_congr hparts, hpath] at hlocate
      cases hlocate
      exact ⟨rfl, hcontent⟩
  -- No file lies at the path itself, so it is tried with the extensions of the formats.
  · next hfind =>
      split at hlocate
      · next hsome =>
          cases hlocate
          obtain ⟨⟨m', q⟩, hmem, hq⟩ := List.exists_of_findSome?_eq_some hsome
          obtain ⟨found, hfound, heq⟩ := Option.map_eq_some_iff.1 hq
          cases heq
          have hq : q ∈ lookedAt reader user none :=
            mem_lookedAt_of_mem_withExtensions (hplace hfind) hmem
          obtain ⟨hcontent, hparts⟩ := eq_of_find?_save h hq hfound
          have hm := ofPath?_of_mem_withExtensions (hplace hfind) hmem
          rw [← ofPath?_congr hparts, hpath] at hm
          exact ⟨(Option.some.inj hm).symm, hcontent⟩
      · cases hlocate

/-- A place that need not be there gives nothing or the layer of the saved settings. -/
theorem usualLayer_save (hpath : SettingsFormat.ofPath? path = some .toml)
    (h : AreElsewhere reader user files) {p : String} (hp : p ∈ lookedAt reader user none)
    (hplace : TextFile.find? p (s.save path files) = none → p ∈ places) :
    ∃ l, usualLayer reader (s.save path files) p = .ok l ∧ (l = Layer.empty ∨ l = s.layer) := by
  rw [usualLayer]
  split
  · next hlocate => exact ⟨_, read_of_locate_save hpath h hp hplace hlocate, .inr rfl⟩
  · exact ⟨_, rfl, .inl rfl⟩

/-- So does the place of the user's own settings. -/
theorem userLayer_save (hpath : SettingsFormat.ofPath? path = some .toml)
    (h : AreElsewhere reader user files) :
    ∃ l, userLayer reader (s.save path files) user = .ok l ∧ (l = Layer.empty ∨ l = s.layer) := by
  rw [userLayer]
  split
  · next hfound =>
      refine usualLayer_save hpath h (mem_lookedAt (.inr rfl)) fun hnone => ?_
      rw [hnone] at hfound
      cases hfound
  · exact ⟨_, rfl, .inl rfl⟩

/-- The file that is named is the saved one, read in the format of its extension. -/
theorem requiredLayer_save (hpath : SettingsFormat.ofPath? path = some .toml) :
    requiredLayer reader (s.save path files) path = .ok s.layer := by
  have hlocate : locate reader (s.save path files) path = .ok (.toml, ⟨path, s.saved⟩) := by
    rw [locate, find?_save, if_pos rfl]
    simp only [hpath]
  simp only [requiredLayer, hlocate, Except.bind, read_saved]

/-- Each layer of the files is empty or that of the saved settings, and the last one is the latter:
where a usual place and the named path lead to the same file, the file is read more than once. -/
theorem fileLayers_save (hpath : SettingsFormat.ofPath? path = some .toml)
    (h : AreElsewhere reader user files) :
    ∃ layers, fileLayers reader user (some path) (s.save path files) = .ok (layers ++ [s.layer])
      ∧ ∀ l ∈ layers, l = Layer.empty ∨ l = s.layer := by
  have hplaces (p : String) (hp : p ∈ places) :=
    usualLayer_save (s := s) hpath h (mem_lookedAt (.inl hp)) fun _ => hp
  obtain ⟨usual, husual⟩ :=
    Result.mapM_ok_of_forall fun p hp => (hplaces p hp).imp fun _ => And.left
  obtain ⟨own, hown, hkind⟩ := userLayer_save (s := s) hpath h
  refine ⟨usual ++ [own], ?_, fun l hl => ?_⟩
  · rw [fileLayers, husual, hown, Option.toList_some, List.mapM_cons, requiredLayer_save hpath]
    rfl
  · rcases List.mem_append.1 hl with hl | hl
    · obtain ⟨p, hp, heq⟩ := Result.exists_of_mem_forall₂ (Result.mapM_eq_ok.1 husual) hl
      obtain ⟨l', heq', hkind⟩ := hplaces p hp
      cases heq.symm.trans heq'
      exact hkind
    · rw [List.mem_singleton.1 hl]
      exact hkind

/-! ## Loading -/

/-- Settings that were saved at a path with the extension of TOML are loaded from it as they were,
whatever their domain is, when no other file is at a place that `loadFrom` looks at and the
environment has no variable of settings. The path itself may be one of the usual places. -/
theorem loadFrom_saved {environment : List (String × String)}
    (hpath : SettingsFormat.ofPath? path = some .toml)
    (hfiles : AreElsewhere reader user files)
    (henvironment : ∀ v ∈ environment, ¬ Layer.mark <+: v.1.toList.map Ascii.lower) :
    loadFrom reader user (some path) (s.save path files) environment = .ok s := by
  obtain ⟨layers, hlayers, hkind⟩ := fileLayers_save (s := s) hpath hfiles
  rw [loadFrom, hlayers]
  exact congrArg (Option.elim · (throw SettingsFault.unfit) pure)
    (s.ofLayers?_layer hkind henvironment)

/-- A domain with quotes of both kinds, a backslash, a line break and a control character, saved
beside a definition. -/
theorem loadFrom_saved_quotes :
    (SettingsFormat.ofPath? "conf/saved.toml" = some .toml
      ∧ AreElsewhere .plain "xdg/jsonotron/jsonotron.toml" [⟨"t/a.json", "null"⟩]
      ∧ ∀ v ∈ [("PATH", "/bin")], ¬ Layer.mark <+: v.1.toList.map Ascii.lower)
    ∧ loadFrom .plain "xdg/jsonotron/jsonotron.toml" (some "conf/saved.toml")
        (save ⟨"true\"''' \\ \n \x01", false, true, false⟩ "conf/saved.toml"
          [⟨"t/a.json", "null"⟩]) [("PATH", "/bin")]
      = .ok ⟨"true\"''' \\ \n \x01", false, true, false⟩ :=
  ⟨⟨by decide, by decide, by decide⟩, loadFrom_saved (by decide) (by decide) (by decide)⟩

/-- No saved document is a JSON text: it begins with the name of the domain. -/
theorem parse_saved : Json.parse s.saved = .error ⟨.expectedValue, 1, 1⟩ := by
  obtain ⟨rest, hchars⟩ : ∃ cs, s.saved.toList = 'd' :: cs := by
    rw [toList_saved]
    exact ⟨_, rfl⟩
  have hrun : Json.Reader.run (2 * ('d' :: rest).length + 2) [] .before ('d' :: rest)
      = .error ⟨.expectedValue, 'd' :: rest, true⟩ := rfl
  rw [Json.parse, hchars, hrun, Except.mapError, Json.Reader.Stop.toError]
  simp [Json.Reader.locate]

/-- The extension decides: a document that was saved at a path with the extension of JSON, or of no
format at all, is not loaded from there. -/
theorem loadFrom_save_ne_ok {environment : List (String × String)} (t : Settings)
    (hpath : SettingsFormat.ofPath? path = some .json ∨ SettingsFormat.ofPath? path = none) :
    loadFrom reader user (some path) (s.save path files) environment ≠ .ok t := by
  intro hload
  obtain ⟨layers, hlayers, -⟩ := Result.bind_eq_ok.1 hload
  obtain ⟨usual, -, hlayers⟩ := Result.bind_eq_ok.1 hlayers
  obtain ⟨own, -, hlayers⟩ := Result.bind_eq_ok.1 hlayers
  obtain ⟨named, hnamed, -⟩ := Result.bind_eq_ok.1 hlayers
  rw [Option.toList_some, Result.mapM_eq_ok, List.forall₂_cons_left_iff] at hnamed
  obtain ⟨l, -, hl, -⟩ := hnamed
  rw [requiredLayer, locate, find?_save, if_pos rfl] at hl
  rcases hpath with hpath | hpath
  · simp [hpath, Except.bind, SettingsReader.read, parse_saved] at hl
  · simp [hpath, Except.bind] at hl

/-- Settings that were saved as `saved.json` are not loaded from there: the document is read as a
JSON text. -/
theorem loadFrom_saved_json_ne :
    loadFrom .plain "xdg/jsonotron/jsonotron.toml" (some "saved.json")
        (standard.save "saved.json" []) []
      = .error (.malformed "saved.json" (some "expected value at line 1 column 1")) := by
  decide +kernel

end TypeCatalog.Settings
