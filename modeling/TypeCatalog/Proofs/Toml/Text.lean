import Mathlib.Data.List.Basic
import TypeCatalog.Toml.Text

/-!
# Strings that are written and read

`Text.writtenChars` chooses one of four forms for a text, and escapes what the form cannot hold.
Whatever stands between the quotes is read as it was written. In a string of several lines the
quotes at the end of a text run into the three that close the string, and the reader takes up to two
of them for the text: so the last two characters are treated by themselves
(`multilineBasic_escapedAll`, `multilineLiteral_append`).

`Text.read_writtenChars` says that a text of any characters is read as it was, whatever follows it
other than one more quote.

`Text.escaped` writes a character, and `Text.basic`, `multilineBasic` and `multilineLiteral` read
one form each and stop behind the quotes that close it. The inductions follow `Text.escapedAll`,
which counts the double quotes in a row because every third one has to be escaped.
-/

set_option autoImplicit false

namespace TypeCatalog.Toml.Text

/-! ## Characters -/

/-- What needs no escape is a plain character, or it breaks the line. -/
theorem isPlain_of_needsEscape {c : Char} (h : needsEscape c = false) :
    isPlain c = true ∨ c = '\n' := by
  simpa [needsEscape, imp_iff_not_or] using h

/-- The digits that a control character is written with stand for it. -/
theorem codePoint?_hex4 {c : Char} (h : c.toNat < 128) : codePoint? (hex4 c.toNat) = some c := by
  have hall : ∀ n < 128, codePoint? (hex4 n) = some (Char.ofNat n) := by decide
  rw [hall _ h, Char.ofNat_toNat]

/-- A character other than the double quote stands between double quotes as an escape of one letter,
by its number, or as it is. -/
theorem escaped_cases (multiline : Bool) (c : Char) :
    (∃ d, escaped multiline c = ['\\', d] ∧ letterEscape? d = some c)
      ∨ (escaped multiline c = ['\\', 'u'] ++ hex4 c.toNat ∧ c.toNat < 128)
      ∨ (escaped multiline c = [c] ∧ c ≠ '\\' ∧ c ≠ '\r'
        ∧ (isPlain c = true ∨ multiline = true ∧ c = '\n')) := by
  unfold escaped
  split_ifs with h₁ h₂ h₃ h₄ h₅ h₆ h₇ h₈
  · exact .inl ⟨'\\', rfl, by rw [h₁]; rfl⟩
  · exact .inl ⟨'b', rfl, h₂ ▸ rfl⟩
  · exact .inl ⟨'t', rfl, h₃ ▸ rfl⟩
  · exact .inr (.inr ⟨by rw [h₄], by rw [h₄]; decide, by rw [h₄]; decide, .inr ⟨h₅, h₄⟩⟩)
  · exact .inl ⟨'n', rfl, h₄ ▸ rfl⟩
  · exact .inl ⟨'f', rfl, h₆ ▸ rfl⟩
  · exact .inl ⟨'r', rfl, h₇ ▸ rfl⟩
  · exact .inr (.inl ⟨rfl, by omega⟩)
  · refine .inr (.inr ⟨rfl, h₁, h₇, .inl ?_⟩)
    rw [not_or, Nat.not_lt] at h₈
    simp [isPlain, h₈]

/-- The letter of an escape is none of those that begin another kind of escape or that end the line.
-/
theorem ne_of_letterEscape? {c d : Char} (h : letterEscape? d = some c) :
    d ≠ 'u' ∧ d ≠ 'U' ∧ d ≠ ' ' ∧ d ≠ '\t' ∧ d ≠ '\n' ∧ d ≠ '\r' := by
  refine ⟨?_, ?_, ?_, ?_, ?_, ?_⟩ <;> rintro rfl <;> cases h

/-! ## Strings of one line -/

/-- An escape of one letter is read as its character. -/
theorem basic_letter {c d : Char} (h : letterEscape? d = some c) (cs : List Char) :
    basic ('\\' :: d :: cs) = keep c (basic cs) := by
  obtain ⟨hu, hU, -⟩ := ne_of_letterEscape? h
  rw [basic, h]
  · rfl
  · exact fun _ _ _ _ _ heq => absurd heq hu
  · exact fun _ _ _ _ _ _ _ _ _ heq => absurd heq hU

/-- A character other than the double quote is read as it was written. -/
theorem basic_escaped {c : Char} (hquote : c ≠ '"') (cs : List Char) :
    basic (escaped false c ++ cs) = keep c (basic cs) := by
  rcases escaped_cases false c with ⟨d, heq, hd⟩ | ⟨heq, hc⟩ | ⟨heq, hslash, -, hplain | ⟨h, -⟩⟩
  · rw [heq]
    exact basic_letter hd cs
  · rw [heq]
    show (codePoint? (hex4 c.toNat)).bind _ = _
    rw [codePoint?_hex4 hc]
    rfl
  · rw [heq, List.singleton_append, basic]
    · rw [if_pos (by simp [hplain, hslash])]
    · exact hquote
    · exact fun _ _ _ _ _ h => absurd h hslash
    · exact fun _ _ _ _ _ _ _ _ _ h => absurd h hslash
    · exact fun _ _ h => absurd h hslash
  · cases h

/-- What stands between double quotes is the text. -/
theorem basic_escapedAll (run : Nat) (cs rest : List Char) :
    basic (escapedAll false run cs ++ '"' :: rest) = some (cs, rest) := by
  induction cs generalizing run with
  | nil => rfl
  | cons c cs ih =>
      by_cases hquote : c = '"'
      · subst hquote
        show basic ('\\' :: '"' :: (escapedAll false 0 cs ++ '"' :: rest)) = _
        rw [basic_letter rfl, ih]
        rfl
      · rw [escapedAll, if_neg hquote, List.append_assoc, basic_escaped hquote, ih]
        rfl

/-- What stands between single quotes is the text. -/
theorem literal_append {cs : List Char} (hplain : ∀ c ∈ cs, isPlain c = true) (htick : tick ∉ cs)
    (rest : List Char) : literal (cs ++ tick :: rest) = some (cs, rest) := by
  induction cs with
  | nil => rfl
  | cons c cs ih =>
      rw [List.forall_mem_cons] at hplain
      rw [List.mem_cons, not_or] at htick
      rw [List.cons_append, literal, if_neg (Ne.symm htick.1), if_pos hplain.1,
        ih hplain.2 htick.2]
      rfl

/-! ## Strings of several lines -/

/-- It is read so in a string of several lines, too. -/
theorem multilineBasic_letter {c d : Char} (h : letterEscape? d = some c) (cs : List Char) :
    multilineBasic false ('\\' :: d :: cs) = keep c (multilineBasic false cs) := by
  obtain ⟨hu, hU, hblank, htab, hbreak, hreturn⟩ := ne_of_letterEscape? h
  have hline : endsLine (d :: cs) = false := by
    simp [endsLine, hblank, htab, hbreak, hreturn]
  rw [multilineBasic, hline, h]
  · rfl
  · exact fun _ _ _ _ _ heq => absurd heq hu
  · exact fun _ _ _ _ _ _ _ _ _ heq => absurd heq hU

/-- A character other than the double quote is read as it was written. -/
theorem multilineBasic_escaped {c : Char} (hquote : c ≠ '"') (cs : List Char) :
    multilineBasic false (escaped true c ++ cs) = keep c (multilineBasic false cs) := by
  -- A character is written as a letter, as four digits, or as itself.
  rcases escaped_cases true c with ⟨d, heq, hd⟩ | ⟨heq, hc⟩ | ⟨heq, hslash, hreturn, hplain⟩
  · rw [heq]
    exact multilineBasic_letter hd cs
  · rw [heq]
    show (codePoint? (hex4 c.toNat)).bind _ = _
    rw [codePoint?_hex4 hc]
    rfl
  · rw [heq, List.singleton_append, multilineBasic]
    · have hkept : (isPlain c && c != '\\' || c == '\n') = true := by
        rcases hplain with hplain | ⟨-, rfl⟩
        · simp [hplain, hslash]
        · rfl
      rw [if_neg (by simp), if_pos hkept]
    · exact fun _ h => absurd h hquote
    · exact fun _ h => absurd h hquote
    · exact fun _ h => absurd h hquote
    · exact fun _ _ _ _ _ h => absurd h hslash
    · exact fun _ _ _ _ _ _ _ _ _ h => absurd h hslash
    · exact fun _ h => absurd h hreturn
    · exact fun _ _ h => absurd h hslash

/-- A double quote that no two others follow belongs to the text. -/
theorem multilineBasic_quote {cs : List Char} (h : ¬ ['"', '"'] <+: cs) :
    multilineBasic false ('"' :: cs) = keep '"' (multilineBasic false cs) := by
  have hne (behind : List Char) (heq : cs = '"' :: '"' :: behind) : False :=
    h ⟨behind, heq.symm⟩
  rw [multilineBasic, if_neg (by simp), if_pos (by decide)]
  · exact fun _ _ heq => hne _ heq
  · exact fun _ _ heq => hne _ heq
  · exact fun _ _ heq => hne _ heq
  · exact fun _ _ _ _ _ h => absurd h (by decide)
  · exact fun _ _ _ _ _ _ _ _ _ h => absurd h (by decide)
  · exact fun _ h => absurd h (by decide)
  · exact fun _ _ h => absurd h (by decide)

/-- A double quote in front of what is written is one of the text, in a string of several lines. -/
theorem quote_of_prefixed {multiline : Bool} {run : Nat} {c : Char} {cs behind : List Char}
    (h : ['"'] <+: escapedAll multiline run (c :: cs) ++ behind) :
    c = '"' ∧ multiline = true ∧ run < 2 := by
  obtain ⟨more, h⟩ := h
  rw [escapedAll] at h
  split at h
  · next hquote =>
      split at h
      · next hraw => exact ⟨hquote, by simpa using hraw⟩
      · cases h
  · next hquote =>
      rcases escaped_cases multiline c with ⟨d, heq, -⟩ | ⟨heq, -⟩ | ⟨heq, -⟩
      · rw [heq] at h
        cases h
      · rw [heq] at h
        cases h
      · rw [heq] at h
        exact absurd (List.head_eq_of_cons_eq h).symm hquote

/-- Two quotes in front of what is written behind a quote are the first ones of those that close the
string, or one of these and the last character of the text. -/
theorem quotes_of_prefixed {run : Nat} {cs behind : List Char}
    (h : ['"', '"'] <+: escapedAll true (run + 1) cs ++ behind) :
    cs = [] ∨ run = 0 ∧ cs = ['"'] := by
  cases cs with
  | nil => exact .inl rfl
  | cons c cs =>
      obtain ⟨rfl, -, hrun⟩ := quote_of_prefixed ((List.prefix_append ['"'] ['"']).trans h)
      have hzero : run = 0 := by omega
      subst hzero
      cases cs with
      | nil => exact .inr ⟨rfl, rfl⟩
      | cons d cs =>
          have hnext : ['"'] <+: escapedAll true 2 (d :: cs) ++ behind :=
            (List.cons_prefix_cons.1 h).2
          exact absurd (quote_of_prefixed hnext).2.2 (Nat.lt_irrefl 2)

/-- The three quotes that close a string end its text, and up to two more quotes in front of them
belong to it. -/
theorem multilineBasic_closing {rest : List Char} (hrest : rest.head? ≠ some '"') :
    multilineBasic false ('"' :: '"' :: '"' :: rest) = some ([], rest)
      ∧ multilineBasic false ('"' :: '"' :: '"' :: '"' :: rest) = some (['"'], rest)
      ∧ multilineBasic false ('"' :: '"' :: '"' :: '"' :: '"' :: rest)
        = some (['"', '"'], rest) := by
  have hne (cs : List Char) (h : rest = '"' :: cs) : False := hrest (h ▸ rfl)
  refine ⟨?_, ?_, multilineBasic.eq_2 _ _⟩
  · rw [multilineBasic]
    · exact fun _ h => hne _ h
    · exact fun _ h => hne _ h
  · rw [multilineBasic]
    exact fun _ h => hne _ h

/-- What stands between three double quotes is the text. -/
theorem multilineBasic_escapedAll {rest : List Char} (hrest : rest.head? ≠ some '"') (run : Nat)
    (cs : List Char) :
    multilineBasic false (escapedAll true run cs ++ (List.replicate 3 '"' ++ rest))
      = some (cs, rest) := by
  obtain ⟨hclosing, hclosing₁, hclosing₂⟩ := multilineBasic_closing hrest
  -- By induction on the text, whatever number of quotes was just written. A quote of the text that
  -- two others follow is one of the last two characters, since no three are written in a row.
  induction cs generalizing run with
  | nil => exact hclosing
  | cons c cs ih =>
      by_cases hquote : c = '"'
      · subst hquote
        by_cases hrun : run < 2
        · have hraw : escapedAll true run ('"' :: cs) = '"' :: escapedAll true (run + 1) cs := by
            simp [escapedAll, hrun]
          rw [hraw, List.cons_append]
          by_cases hquotes : ['"', '"']
              <+: escapedAll true (run + 1) cs ++ (List.replicate 3 '"' ++ rest)
          · rcases quotes_of_prefixed hquotes with rfl | ⟨rfl, rfl⟩
            · exact hclosing₁
            · exact hclosing₂
          · rw [multilineBasic_quote hquotes, ih]
            rfl
        · have hraw : escapedAll true run ('"' :: cs) = '\\' :: '"' :: escapedAll true 0 cs := by
            simp [escapedAll, hrun]
          rw [hraw, List.cons_append, List.cons_append, multilineBasic_letter rfl, ih]
          rfl
      · rw [escapedAll, if_neg hquote, List.append_assoc, multilineBasic_escaped hquote, ih]
        rfl

/-! ## Strings of several lines between single quotes -/

/-- A longest run is as long as the run that it goes on with. -/
theorem le_longestRun (c : Char) (run : Nat) (cs : List Char) : run ≤ longestRun c run cs := by
  induction cs generalizing run with
  | nil => exact Nat.le_refl _
  | cons d cs ih =>
      rw [longestRun]
      split
      · exact Nat.le_of_succ_le (ih _)
      · exact Nat.le_max_left _ _

/-- Without a run of a character there is none of it. -/
theorem notMem_of_longestRun {c : Char} {cs : List Char} (h : longestRun c 0 cs = 0) : c ∉ cs := by
  induction cs with
  | nil => exact List.not_mem_nil
  | cons d cs ih =>
      rw [longestRun] at h
      split at h
      · exact absurd (h ▸ le_longestRun c 1 cs) (by decide)
      · next hne =>
          rw [List.mem_cons, not_or]
          exact ⟨Ne.symm hne, ih (by omega)⟩

/-- A literal string keeps a plain character or a line break, unless three ticks begin there. -/
theorem multilineLiteral_cons {c : Char} {cs : List Char} (hplain : isPlain c = true ∨ c = '\n')
    (h : ¬ (c = tick ∧ [tick, tick] <+: cs)) :
    multilineLiteral (c :: cs) = keep c (multilineLiteral cs) := by
  have hne (behind : List Char) (hc : c = tick) (heq : cs = tick :: tick :: behind) : False :=
    h ⟨hc, behind, heq.symm⟩
  rw [multilineLiteral, if_pos (by simpa using hplain)]
  · exact fun _ hc heq => hne _ hc heq
  · exact fun _ hc heq => hne _ hc heq
  · exact fun _ hc heq => hne _ hc heq
  · rintro _ rfl
    exact absurd hplain (by decide)

/-- The ticks that close a literal string end its text, and up to two more in front of them belong
to it. -/
theorem multilineLiteral_closing {rest : List Char} (hrest : rest.head? ≠ some tick) :
    multilineLiteral (tick :: tick :: tick :: rest) = some ([], rest)
      ∧ multilineLiteral (tick :: tick :: tick :: tick :: rest) = some ([tick], rest)
      ∧ multilineLiteral (tick :: tick :: tick :: tick :: tick :: rest)
        = some ([tick, tick], rest) := by
  have hne (cs : List Char) (h : rest = tick :: cs) : False := hrest (h ▸ rfl)
  refine ⟨?_, ?_, multilineLiteral.eq_2 _⟩
  · unfold tick at *
    rw [multilineLiteral]
    · exact fun _ h => hne _ h
    · exact fun _ h => hne _ h
  · unfold tick at *
    rw [multilineLiteral]
    · rfl
    · exact fun _ h => hne _ h

/-- What stands between three single quotes is the text, if it has no three of them in a row. -/
theorem multilineLiteral_append {rest : List Char} (hrest : rest.head? ≠ some tick) {run : Nat}
    {cs : List Char} (hplain : ∀ c ∈ cs, isPlain c = true ∨ c = '\n')
    (hrun : longestRun tick run cs ≤ 2) :
    multilineLiteral (cs ++ (List.replicate 3 tick ++ rest)) = some (cs, rest) := by
  obtain ⟨hclosing, hclosing₁, hclosing₂⟩ := multilineLiteral_closing hrest
  -- As between double quotes, but nothing can be escaped: three quotes in a row are ruled out by
  -- the length of the longest run.
  induction cs generalizing run with
  | nil => exact hclosing
  | cons c cs ih =>
      rw [List.forall_mem_cons] at hplain
      obtain ⟨next, hnext⟩ : ∃ next, longestRun tick next cs ≤ 2 := by
        rw [longestRun] at hrun
        split at hrun
        · exact ⟨_, hrun⟩
        · exact ⟨_, Nat.le_trans (Nat.le_max_right _ _) hrun⟩
      by_cases hticks : c = tick ∧ [tick, tick] <+: cs ++ (List.replicate 3 tick ++ rest)
      · obtain ⟨rfl, hquotes⟩ := hticks
        cases cs with
        | nil => exact hclosing₁
        | cons d cs =>
            obtain ⟨rfl, hsecond⟩ := List.cons_prefix_cons.1 hquotes
            cases cs with
            | nil => exact hclosing₂
            | cons e cs =>
                obtain ⟨rfl, -⟩ := List.cons_prefix_cons.1 hsecond
                have hthree : longestRun tick (run + 3) cs ≤ 2 := by simpa [longestRun] using hrun
                have hle := le_longestRun tick (run + 3) cs
                omega
      · rw [List.cons_append, multilineLiteral_cons hplain.1 hticks, ih hplain.2 hnext]
        rfl

/-! ## Written strings -/

/-- Whether a form can hold a text. Double quotes hold any text, since escapes are read there. -/
def Form.Holds (cs : List Char) : Form → Prop
  | .basic => True
  | .literal => cs ≠ [] ∧ (∀ c ∈ cs, isPlain c = true) ∧ tick ∉ cs
  | .multilineBasic => True
  | .multilineLiteral => (∀ c ∈ cs, isPlain c = true ∨ c = '\n') ∧ longestRun tick 0 cs ≤ 2

/-- The form that is chosen for a text can hold it. -/
theorem holds_formOf (cs : List Char) : (formOf cs).Holds cs := by
  unfold formOf
  dsimp only
  split_ifs with hbasic hliteral hlines hticks
  · trivial
  · simp only [Bool.and_eq_true, Bool.not_eq_true', List.any_eq_false, beq_iff_eq,
      List.contains_eq_mem, decide_eq_false_iff_not] at hliteral
    obtain ⟨⟨hescapes, hbreak⟩, hticks⟩ := hliteral
    refine ⟨?_, fun c hc => ?_, notMem_of_longestRun hticks⟩
    · rintro rfl
      exact hbasic rfl
    · exact (isPlain_of_needsEscape (Bool.eq_false_iff.2 (hescapes c hc))).resolve_right
        fun heq => hbreak (heq ▸ hc)
  · trivial
  · simp only [Bool.and_eq_true, Bool.not_eq_true', List.any_eq_false,
      decide_eq_true_eq] at hticks
    exact ⟨fun c hc => isPlain_of_needsEscape (Bool.eq_false_iff.2 (hticks.1 c hc)), hticks.2⟩
  · trivial
  · trivial

/-- Nothing is dropped in front of a text that does not begin with a line break. -/
theorem dropFirstBreak_eq_self {cs : List Char} (h : ∀ c, cs.head? = some c → c ≠ '\n' ∧ c ≠ '\r') :
    dropFirstBreak cs = cs := by
  unfold dropFirstBreak
  split
  · exact absurd rfl (h '\n' rfl).1
  · exact absurd rfl (h '\r' rfl).2
  · rfl

/-- What a string of several lines begins with is not taken for a part of the text. -/
theorem dropFirstBreak_opening (cs : List Char) {behind : List Char}
    (h : '\n' ∉ cs → ∀ c, behind.head? = some c → c ≠ '\n' ∧ c ≠ '\r') :
    dropFirstBreak ((if cs.contains '\n' then ['\n'] else []) ++ behind) = behind := by
  by_cases hbreak : '\n' ∈ cs
  · rw [if_pos (by simpa using hbreak)]
    rfl
  · rw [if_neg (by simpa using hbreak)]
    exact dropFirstBreak_eq_self (h hbreak)

/-- What is written of a text without line breaks begins with none. -/
theorem head?_escapedAll {cs : List Char} (behind : List Char) (hbreak : '\n' ∉ cs) :
    ∀ c, (escapedAll true 0 cs ++ '"' :: behind).head? = some c → c ≠ '\n' ∧ c ≠ '\r' := by
  cases cs with
  | nil =>
      rintro _ ⟨⟩
      decide
  | cons c cs =>
      rw [List.mem_cons, not_or] at hbreak
      rw [escapedAll]
      split
      · next hquote =>
          rw [hquote]
          rintro _ ⟨⟩
          decide
      -- Each way to write a character begins with a backslash or with the character itself.
      · rcases escaped_cases true c with ⟨e, heq, -⟩ | ⟨heq, -⟩ | ⟨heq, -, hreturn, -⟩
        · rw [heq]
          rintro _ ⟨⟩
          decide
        · rw [heq]
          rintro _ ⟨⟩
          decide
        · rw [heq]
          rintro _ ⟨⟩
          exact ⟨Ne.symm hbreak.1, hreturn⟩

/-- Where no three quotes stand in front, the text is one of a single line. -/
theorem read_eq_readLine {cs : List Char} (hdouble : ¬ List.replicate 3 '"' <+: cs)
    (hsingle : ¬ List.replicate 3 tick <+: cs) : read cs = readLine cs := by
  unfold read
  split
  · exact absurd ⟨_, rfl⟩ hdouble
  · exact absurd ⟨_, rfl⟩ hsingle
  · rfl

/-- What was written between double quotes is read. -/
theorem read_basic (cs : List Char) {rest : List Char} (hrest : rest.head? ≠ some '"') :
    read ('"' :: (escapedAll false 0 cs ++ '"' :: rest)) = some (cs, rest) := by
  rw [read_eq_readLine]
  · exact basic_escapedAll 0 cs rest
  · intro h
    have hsecond := (List.cons_prefix_cons.1 h).2
    cases cs with
    | nil =>
        obtain ⟨more, heq⟩ := (List.cons_prefix_cons.1 hsecond).2
        exact hrest (heq ▸ rfl)
    | cons c cs =>
        cases (quote_of_prefixed ((List.prefix_append ['"'] ['"']).trans hsecond)).2.1
  · intro h
    exact absurd (List.cons_prefix_cons.1 h).1 (by decide)

/-- What was written between ticks is read. -/
theorem read_literal {cs : List Char} (hne : cs ≠ []) (hplain : ∀ c ∈ cs, isPlain c = true)
    (htick : tick ∉ cs) (rest : List Char) :
    read (tick :: (cs ++ tick :: rest)) = some (cs, rest) := by
  rw [read_eq_readLine]
  · exact literal_append hplain htick rest
  · intro h
    exact absurd (List.cons_prefix_cons.1 h).1 (by decide)
  · intro h
    obtain ⟨c, cs, rfl⟩ := List.exists_cons_of_ne_nil hne
    have hsecond := (List.cons_prefix_cons.1 h).2
    exact htick ((List.cons_prefix_cons.1 hsecond).1 ▸ List.mem_cons_self)

/-- What was written between three double quotes is read, be a line break put in front or not. -/
theorem read_multilineBasic (cs : List Char) {rest : List Char} (hrest : rest.head? ≠ some '"') :
    read (List.replicate 3 '"' ++ ((if cs.contains '\n' then ['\n'] else [])
      ++ (escapedAll true 0 cs ++ (List.replicate 3 '"' ++ rest)))) = some (cs, rest) := by
  have hdrop := congrArg (multilineBasic false) (dropFirstBreak_opening cs
    (head?_escapedAll ('"' :: '"' :: rest)))
  exact hdrop.trans (multilineBasic_escapedAll hrest 0 cs)

/-- What was written between three ticks is read. -/
theorem read_multilineLiteral {cs : List Char} (hplain : ∀ c ∈ cs, isPlain c = true ∨ c = '\n')
    (hrun : longestRun tick 0 cs ≤ 2) {rest : List Char} (hrest : rest.head? ≠ some tick) :
    read (List.replicate 3 tick ++ ((if cs.contains '\n' then ['\n'] else [])
      ++ (cs ++ (List.replicate 3 tick ++ rest)))) = some (cs, rest) := by
  have hhead (hbreak : '\n' ∉ cs) (c : Char)
      (hc : (cs ++ (List.replicate 3 tick ++ rest)).head? = some c) : c ≠ '\n' ∧ c ≠ '\r' := by
    cases cs with
    | nil =>
        cases hc
        decide
    | cons d cs =>
        cases hc
        refine ⟨fun heq => hbreak (heq ▸ List.mem_cons_self), ?_⟩
        rintro rfl
        exact absurd (hplain '\r' List.mem_cons_self) (by decide)
  have hdrop := congrArg multilineLiteral (dropFirstBreak_opening cs hhead)
  exact hdrop.trans (multilineLiteral_append hrest hplain hrun)

/-- A text is read as it was written, whatever follows it other than one more quote. -/
theorem read_writtenChars (cs : List Char) {rest : List Char} (hdouble : rest.head? ≠ some '"')
    (hsingle : rest.head? ≠ some tick) : read (writtenChars cs ++ rest) = some (cs, rest) := by
  have hholds := holds_formOf cs
  unfold writtenChars
  cases hform : formOf cs with
  | basic =>
      dsimp only
      rw [List.append_assoc, List.singleton_append]
      exact read_basic cs hdouble
  | literal =>
      rw [hform] at hholds
      dsimp only
      rw [List.append_assoc, List.singleton_append]
      exact read_literal hholds.1 hholds.2.1 hholds.2.2 rest
  | multilineBasic =>
      dsimp only
      simp only [List.append_assoc]
      exact read_multilineBasic cs hdouble
  | multilineLiteral =>
      rw [hform] at hholds
      dsimp only
      simp only [List.append_assoc]
      exact read_multilineLiteral hholds.1 hholds.2 hsingle

end TypeCatalog.Toml.Text
