import MachineOperator.Bytes
import MachineOperator.Proofs.Yaml.Tree
import MachineOperator.Yaml.Document

/-!
What is written is read back. Everything in a written text is a printable character, which a reader takes as it is; its
tokens and its tree are those of the value that was written.
-/
namespace MachineOperator.Yaml

/-! Only printable characters are written. -/

@[simp] theorem all_spaces (n : Nat) : (spaces n).all isPrintable = true := by
  simp [spaces, isPrintable]

theorem all_hexDigits (k n : Nat) : (hexDigits k n).all isPrintable = true := by
  have each : ∀ i : Fin 16, isPrintable (hexDigit i.val) = true := by decide
  induction k generalizing n with
  | zero => rfl
  | succ k ih => simp [hexDigits, ih, each ⟨n % 16, Nat.mod_lt _ (by decide)⟩]

theorem all_escaped (c : Char) : (escaped c).all isPrintable = true := by
  have letters : ∀ letter, escapeLetter? c = some letter → isPrintable letter = true := by
    intro letter escape
    revert escape
    unfold escapeLetter?
    iterate 14
      refine iteInduction (motive := fun x : Option Char => x = some letter → isPrintable letter = true)
        (fun _ escape => by cases escape; decide) (fun _ => ?_)
    exact fun escape => by cases escape
  have slash : isPrintable '\\' = true := by decide
  unfold escaped
  cases escape : escapeLetter? c with
  | some letter => simp [slash, letters letter escape]
  | none =>
    dsimp only
    split
    · simp [all_hexDigits, isPrintable]
    · split <;> simp [all_hexDigits, isPrintable]

theorem all_doubleQuoted (cs : List Char) : (doubleQuoted cs).all isPrintable = true := by
  have each : ∀ c, (if isEscaped c then escaped c else [c]).all isPrintable = true := by
    intro c
    split
    · exact all_escaped c
    · next unmarked =>
      simp only [isEscaped, Bool.or_eq_true, not_or, Bool.not_eq_true', Bool.not_eq_true, Bool.not_eq_false] at unmarked
      simp [unmarked]
  have quote : isPrintable '"' = true := by decide
  have inside : (cs.flatMap fun c => if isEscaped c then escaped c else [c]).all isPrintable = true := by
    rw [List.all_flatMap]
    simp only [List.all_eq_true]
    intro c _
    simpa using each c
  simp [doubleQuoted, quote, inside]

theorem all_singleQuoted {cs : List Char} (indent : Nat) (printable : ∀ c ∈ cs, isPrintable c = true) :
    (singleQuoted indent cs).all isPrintable = true := by
  have inside : ∀ (ds : List Char) (broken : Bool), (∀ c ∈ ds, isPrintable c = true) →
      (singleQuotedFrom indent broken ds).all isPrintable = true := by
    intro ds
    induction ds with
    | nil => intro broken _; cases broken <;> simp [singleQuotedFrom]
    | cons c r ih =>
      intro broken printable
      have here := printable c (by simp)
      have rest := fun b => ih b fun d member => printable d (by simp [member])
      have text : (if c = '\'' then ['\'', '\''] else [c]).all isPrintable = true := by
        split
        · decide
        · simp [here]
      have begun : (if broken then spaces indent else []).all isPrintable = true := by cases broken <;> simp
      rw [singleQuotedFrom]
      split
      · rw [List.all_cons, here, rest]
        rfl
      · split
        · rw [List.all_cons, here, rest]
          rfl
        · rw [List.all_append, List.all_append, begun, text, rest]
          rfl
  have quote : isPrintable '\'' = true := by decide
  simp [singleQuoted, quote, inside cs false printable]

theorem all_literal {cs : List Char} (indent : Nat) (printable : ∀ c ∈ cs, isPrintable c = true) :
    (literal indent cs).all isPrintable = true := by
  have lines : ∀ (ds : List Char) (fresh : Bool), (∀ c ∈ ds, isPrintable c = true) →
      (literalLines indent fresh ds).all isPrintable = true := by
    intro ds
    induction ds with
    | nil => exact fun _ _ => rfl
    | cons c r ih =>
      intro fresh printable
      have here := printable c (by simp)
      have rest := fun b => ih b fun d member => printable d (by simp [member])
      have begun : (if fresh then spaces indent else []).all isPrintable = true := by cases fresh <;> simp
      rw [literalLines]
      split
      · rw [List.all_cons, here, rest]
        rfl
      · rw [List.all_append, List.all_cons, begun, here, rest]
        rfl
  have hint : (indentHint cs).all isPrintable = true := by
    unfold indentHint
    split
    · split <;> decide
    · rfl
  have chomp : (chompHint cs).all isPrintable = true := by
    unfold chompHint
    split
    · decide
    · split <;> decide
    · split
      · decide
      · split <;> decide
  have ending : (if endsLine cs then [] else ['\n']).all isPrintable = true := by split <;> decide
  have bar : isPrintable '|' = true := by decide
  have line_end : isPrintable '\n' = true := by decide
  unfold literal
  simp only [List.all_append, List.all_cons, hint, chomp, ending, bar, line_end, lines cs true printable, Bool.and_self]

theorem singleAllowed_printable {cs : List Char} (allowed : singleAllowed cs = true) :
    ∀ c ∈ cs, isPrintable c = true := by
  simp only [singleAllowed, needsEscape, Bool.and_eq_true, Bool.not_eq_true', Bool.or_eq_false_iff] at allowed
  intro c member
  simpa using List.any_eq_false.1 allowed.1.1 c member

theorem all_plain {cs : List Char} (plain : ∃ c r, cs = c :: r ∧ PlainText c r) : cs.all isPrintable = true := by
  obtain ⟨c, r, rfl, plain⟩ := plain
  exact List.all_eq_true.2 fun d member => (plain.inLine d member).1

theorem all_printString (indent : Nat) (s : String) : (printString indent s).all isPrintable = true := by
  have line_end : isPrintable '\n' = true := by decide
  have suits := suits_styleOf s
  unfold printString
  cases style : styleOf s with
  | plain => simp only [List.all_append, all_plain (plainText_of_style style)]; simp [line_end]
  | singleQuoted =>
    rw [style] at suits
    simp only [List.all_append, all_singleQuoted indent (singleAllowed_printable suits.1)]
    simp [line_end]
  | doubleQuoted => simp only [List.all_append, all_doubleQuoted]; simp [line_end]
  | literal =>
    rw [style] at suits
    exact all_literal indent (literalAllowed_printable suits.1)
  | folded =>
    rw [style] at suits
    cases suits

theorem all_printKey (key : String) : (printKey key).all isPrintable = true := by
  have suits := suits_styleOf key
  unfold printKey
  cases style : styleOf key with
  | plain => exact all_plain (plainText_of_style style)
  | singleQuoted =>
    rw [style] at suits
    exact all_singleQuoted 0 (singleAllowed_printable suits.1)
  | doubleQuoted => exact all_doubleQuoted _
  | literal => exact all_doubleQuoted _
  | folded => exact all_doubleQuoted _

theorem all_printLeaf (v : Value) (whole : ∀ x, v ≠ .float x) (indent : Nat) :
    (v.printLeaf indent).all isPrintable = true := by
  cases v with
  | null => rfl
  | bool b => cases b <;> rfl
  | int n =>
    obtain ⟨c, r, same, plain, _⟩ := plainText_int n
    have line_end : isPrintable '\n' = true := by decide
    rw [Value.printLeaf, List.all_append, all_plain ⟨c, r, same, plain⟩]
    simp [line_end]
  | float x => exact absurd rfl (whole x)
  | string s => exact all_printString indent s
  | sequence vs => rfl
  | mapping es => rfl

theorem all_line {c : Char} {text : List Char} (here : isPrintable c = true) (rest : text.all isPrintable = true) :
    (c :: text).all isPrintable = true := by
  rw [List.all_cons, here, rest]
  rfl

theorem all_append {first second : List Char} (left : first.all isPrintable = true)
    (right : second.all isPrintable = true) : (first ++ second).all isPrintable = true := by
  rw [List.all_append, left, right]
  rfl

mutual

theorem all_printAfterKey (n : Nat) (v : Value) (whole : v.isExact = true) :
    (v.printAfterKey n).all isPrintable = true := by
  match v, whole with
  | .mapping ((key, w) :: es), whole =>
    exact all_append (all_line rfl (all_spaces _)) (all_printEntries (n + 2) ((key, w) :: es) whole)
  | .sequence (w :: vs), whole => exact all_append (all_line rfl (all_spaces _)) (all_printItems n (w :: vs) whole)
  | .mapping [], _ => exact all_line rfl (all_printLeaf _ (by simp) (n + 2))
  | .sequence [], _ => exact all_line rfl (all_printLeaf _ (by simp) (n + 2))
  | .null, _ => exact all_line rfl (all_printLeaf _ (by simp) (n + 2))
  | .bool b, _ => exact all_line rfl (all_printLeaf _ (by simp) (n + 2))
  | .int i, _ => exact all_line rfl (all_printLeaf _ (by simp) (n + 2))
  | .string s, _ => exact all_line rfl (all_printLeaf _ (by simp) (n + 2))

theorem all_printAfterIndicator (n : Nat) (v : Value) (whole : v.isExact = true) :
    (v.printAfterIndicator n).all isPrintable = true := by
  match v, whole with
  | .mapping ((key, w) :: es), whole => exact all_line rfl (all_printEntries (n + 2) ((key, w) :: es) whole)
  | .sequence (w :: vs), whole => exact all_line rfl (all_printItems (n + 2) (w :: vs) whole)
  | .mapping [], _ => exact all_line rfl (all_printLeaf _ (by simp) (n + 2))
  | .sequence [], _ => exact all_line rfl (all_printLeaf _ (by simp) (n + 2))
  | .null, _ => exact all_line rfl (all_printLeaf _ (by simp) (n + 2))
  | .bool b, _ => exact all_line rfl (all_printLeaf _ (by simp) (n + 2))
  | .int i, _ => exact all_line rfl (all_printLeaf _ (by simp) (n + 2))
  | .string s, _ => exact all_line rfl (all_printLeaf _ (by simp) (n + 2))

theorem all_printEntries (n : Nat) (es : List (String × Value)) (whole : Value.holdExact es = true) :
    (Value.printEntries n es).all isPrintable = true := by
  match es, whole with
  | [], _ => rfl
  | (key, v) :: r, whole =>
    obtain ⟨here, others⟩ : v.isExact = true ∧ Value.holdExact r = true := by
      simpa only [Value.holdExact, Bool.and_eq_true] using whole
    rw [Value.printEntries]
    refine all_append ?_ ?_
    · split
      · exact all_append (all_printKey key) (all_line rfl (all_printAfterKey n v here))
      · have explicit := all_line (c := '?') rfl (all_line (c := ' ') rfl (all_printString (n + 2) key))
        exact all_append (all_append explicit (all_spaces n)) (all_line rfl (all_printAfterIndicator n v here))
    · split
      · rfl
      · exact all_append (all_spaces n) (all_printEntries n r others)

theorem all_printItems (n : Nat) (vs : List Value) (whole : Value.areExact vs = true) :
    (Value.printItems n vs).all isPrintable = true := by
  match vs, whole with
  | [], _ => rfl
  | v :: r, whole =>
    obtain ⟨here, others⟩ : v.isExact = true ∧ Value.areExact r = true := by
      simpa only [Value.areExact, Bool.and_eq_true] using whole
    rw [Value.printItems]
    refine all_append (all_line rfl (all_printAfterIndicator n v here)) ?_
    split
    · rfl
    · exact all_append (all_spaces n) (all_printItems n r others)

end

theorem all_print {v : Value} (whole : v.isExact = true) : v.print.all isPrintable = true := by
  match v, whole with
  | .mapping ((key, w) :: es), whole => exact all_printEntries 0 ((key, w) :: es) whole
  | .sequence (w :: vs), whole => exact all_printItems 0 (w :: vs) whole
  | .mapping [], _ => exact all_printLeaf (.mapping []) (by simp) 2
  | .sequence [], _ => exact all_printLeaf (.sequence []) (by simp) 2
  | .null, _ => exact all_printLeaf .null (by simp) 2
  | .bool b, _ => exact all_printLeaf (.bool b) (by simp) 2
  | .int i, _ => exact all_printLeaf (.int i) (by simp) 2
  | .string s, _ => exact all_printLeaf (.string s) (by simp) 2

/-! Printable characters are read as they are. -/

theorem isAllowed_of_isPrintable {c : Char} (printable : isPrintable c = true) : Source.isAllowed c = true := by
  simp only [isPrintable, Source.isAllowed, Bool.or_eq_true, Bool.and_eq_true, decide_eq_true_eq, beq_iff_eq] at *
  rcases printable with (line_end | ascii) | other
  · simp [line_end]
  · simp [ascii]
  · simp [other]

theorem normalizeBreaks_of_printable {cs : List Char} (printable : cs.all isPrintable = true) :
    Source.normalizeBreaks cs = cs := by
  induction cs with
  | nil => rfl
  | cons c r ih =>
    rw [List.all_cons, Bool.and_eq_true] at printable
    have apart := isPrintable_ne printable.1
    have rest := ih printable.2
    unfold Source.normalizeBreaks
    split
    · next nothing => cases nothing
    · next same =>
      cases same
      exact absurd rfl apart.2.2.1
    · next same =>
      cases same
      rw [if_neg (not_or.2 ⟨apart.2.2.1, apart.2.2.2.1⟩), rest]

theorem source_of_printable {s : String} (printable : s.toList.all isPrintable = true) :
    Source.ofString s = ⟨s.toList, none⟩ := by
  have allowed : s.toList.all Source.isAllowed = true := List.all_eq_true.2 fun c member =>
    isAllowed_of_isPrintable (List.all_eq_true.1 printable c member)
  rw [Source.ofString, if_pos allowed, normalizeBreaks_of_printable printable]

theorem source_toUTF8 (s : String) : Source.ofBytes s.toUTF8 = Source.ofString s := by
  rw [Source.ofBytes, fromUTF8?_eq_some_iff.2 rfl]

/-- A root starts with the first token of a value. -/
theorem kinds_root {v : Value} (whole : v.isExact = true) :
    ∃ k ks, v.kinds false = k :: ks ∧ Document.endsRoot k = false := by
  match v, whole with
  | .mapping (_ :: _), _ => exact ⟨_, _, rfl, rfl⟩
  | .sequence (_ :: _), _ => exact ⟨_, _, rfl, rfl⟩
  | .mapping [], _ => exact ⟨_, _, rfl, rfl⟩
  | .sequence [], _ => exact ⟨_, _, rfl, rfl⟩
  | .null, _ => exact ⟨_, _, rfl, rfl⟩
  | .bool b, _ => exact ⟨_, _, rfl, rfl⟩
  | .int n, _ => exact ⟨_, _, rfl, rfl⟩
  | .string s, _ => exact ⟨_, _, rfl, rfl⟩

theorem ofTokens_root {t : Token} {ts : List Token} (root : Document.endsRoot t.kind = false) :
    Document.ofTokens (t :: ts) none = Document.ofRoot
      (Node.parse (Document.enough (t :: ts)) ⟨Document.standardHandles, .text .endOfStream .origin none⟩ true false
        ⟨t :: ts, []⟩) none := by
  obtain ⟨kind, m⟩ := t
  unfold Document.ofTokens
  cases kind <;> first | rfl | cases root

/-- A written document is one document, and says the value that was written. -/
theorem ofBytes_render {v : Value} (whole : v.isExact = true) :
    ∃ root, Document.ofBytes v.render.toUTF8 = ⟨root, none, false⟩ ∧ root.toValue? = some v := by
  obtain ⟨ts, scanned, kinds⟩ := tokens_print whole
  obtain ⟨tv, te, rfl, value_kinds, end_kinds⟩ := List.map_eq_append_iff.1 kinds
  obtain ⟨m, tail, rfl, last⟩ := Node.cons_of_kinds end_kinds
  cases List.map_eq_nil_iff.1 last
  obtain ⟨k, ks, head, starts⟩ := kinds_root whole
  obtain ⟨first, rest, rfl, _⟩ := Node.cons_of_kinds (value_kinds.trans head)
  obtain ⟨root, parsed, same⟩ := Node.parse_value v whole false
    (Document.enough (⟨k, first⟩ :: (rest ++ [⟨.streamEnd, m⟩])))
    ⟨Document.standardHandles, .text .endOfStream .origin none⟩ false [] [⟨.streamEnd, m⟩] value_kinds
    (by simp [Document.enough]; omega) (by simp)
  have source : Source.ofBytes v.render.toUTF8 = ⟨v.print, none⟩ := by
    have text : v.render.toList = v.print := String.toList_ofList
    rw [source_toUTF8, source_of_printable (by rw [text]; exact all_print whole), text]
  refine ⟨root, ?_, same⟩
  rw [Document.ofBytes, Document.ofSource, source, scanned]
  simp only [List.cons_append] at parsed ⊢
  rw [ofTokens_root starts, parsed]
  rfl

end MachineOperator.Yaml
