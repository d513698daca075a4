import MachineOperator.Proofs.Yaml.Varied

/-!
Reading documents that are the same apart from numbers. If one is read as a value of a schema, and the number that another
has instead fits wherever the schema has numbers, then the other is read too: as a value with the same options and with the
same texts where they are no numbers.
-/
namespace MachineOperator.Yaml

/-- The second reader succeeds when the first does, having followed as many aliases. -/
def Follows {α : Type} (R : α → α → Prop) (r r' : Reader α) : Prop :=
  ∀ k x k', r k = .ok (x, k') → ∃ y, r' k = .ok (y, k') ∧ R x y

/-- A reader that does not succeed. -/
def Fails {α : Type} (r : Reader α) : Prop := ∀ k x, r k ≠ .ok x

/-- Any two values. -/
def Any {α : Type} (_ _ : α) : Prop := True

theorem bind_reader_eq_ok {α β : Type} {r : Reader α} {f : α → Reader β} {k : Nat} {b : β × Nat} :
    (r >>= f) k = .ok b ↔ ∃ a l, r k = .ok (a, l) ∧ f a l = .ok b := by
  show Except.bind (r k) (fun done => f done.1 done.2) = .ok b ↔ _
  rcases r k with e | ⟨a, l⟩
  · simp [Except.bind]
  · simp [Except.bind]

theorem located_eq_ok {α : Type} {r : Reader α} {path : Path} {m : Mark} {k : Nat} {a : α × Nat} :
    located path m r k = .ok a ↔ r k = .ok a := by
  unfold located
  split <;> simp_all

namespace Fails
variable {α β : Type} {r : Reader α}

theorem throw (e : ReadError) : Fails (throw e : Reader α) := nofun

theorem mismatch (cause : Cause) : Fails (mismatch cause : Reader α) := nofun

theorem located (path : Path) (m : Mark) (fails : Fails r) : Fails (located path m r) :=
  fun k x done => fails k x (located_eq_ok.1 done)

end Fails

theorem Node.fails_refuse {α : Type} (path : Path) (expected : String) (x : Node) :
    Fails (refuse path expected x : Reader α) := by
  cases x with
  | scalar p style text m =>
    refine Fails.located path m ?_
    split
    · exact .mismatch _
    · exact .mismatch _
  | sequence p items m => exact .located path m (.mismatch _)
  | mapping p entries m => exact .located path m (.mismatch _)
  | _ => exact .throw _

namespace Follows
variable {α β : Type} {R R' : α → α → Prop} {S : β → β → Prop} {r r' : Reader α}

theorem pure {x y : α} (related : R x y) : Follows R (pure x) (pure y) := by
  intro k _ _ done
  cases done
  exact ⟨y, rfl, related⟩

theorem of_fails (fails : Fails r) : Follows R r r' := fun k x k' done => absurd done (fails k (x, k'))

theorem refl (same : ∀ x, R x x) (r : Reader α) : Follows R r r := fun _ x _ done => ⟨x, done, same x⟩

theorem mono (first : Follows R r r') (weaker : ∀ x y, R x y → R' x y) : Follows R' r r' := by
  intro k x k' done
  obtain ⟨y, done', related⟩ := first k x k' done
  exact ⟨y, done', weaker x y related⟩

theorem bind {f f' : α → Reader β} (first : Follows R r r') (next : ∀ x y, R x y → Follows S (f x) (f' y)) :
    Follows S (r >>= f) (r' >>= f') := by
  intro k b k' done
  obtain ⟨x, l, here, there⟩ := bind_reader_eq_ok.1 done
  obtain ⟨y, here', related⟩ := first k x l here
  obtain ⟨c, there', result⟩ := next x y related l b k' there
  exact ⟨c, bind_reader_eq_ok.2 ⟨y, l, here', there'⟩, result⟩

theorem map {f f' : α → β} (first : Follows R r r') (next : ∀ x y, R x y → S (f x) (f' y)) :
    Follows S (do return f (← r)) (do return f' (← r')) :=
  first.bind fun x y related => .pure (next x y related)

theorem located (path path' : Path) (m m' : Mark) (first : Follows R r r') :
    Follows R (located path m r) (located path' m' r') := by
  intro k x k' done
  obtain ⟨y, done', related⟩ := first k x k' (located_eq_ok.1 done)
  exact ⟨y, located_eq_ok.2 done', related⟩

theorem ite {c c' : Prop} [Decidable c] [Decidable c'] {t t' : Reader α} (same : c ↔ c') (first : c → Follows R r r')
    (second : ¬c → Follows R t t') : Follows R (if c then r else t) (if c' then r' else t') := by
  by_cases holds : c
  · rw [if_pos holds, if_pos (same.1 holds)]
    exact first holds
  · rw [if_neg holds, if_neg (mt same.2 holds)]
    exact second holds

/-- One state after another, over parts that vary. -/
theorem foldlM {σ δ : Type} {T : σ → σ → Prop} {P : δ → δ → Prop} {step step' : σ → δ → Reader σ}
    (steps : ∀ s s' d d', T s s' → P d d' → Follows T (step s d) (step' s' d')) {ds ds' : List δ}
    (each : List.Forall₂ P ds ds') {s s' : σ} (start : T s s') : Follows T (ds.foldlM step s) (ds'.foldlM step' s') := by
  induction each generalizing s s' with
  | nil => exact .pure start
  | cons here others ih =>
    rw [List.foldlM_cons, List.foldlM_cons]
    exact (steps _ _ _ _ start here).bind fun t t' related => ih related

end Follows

namespace Node
variable {n : Int} {a a' : Aliases} {x y : Node}

theorem follow_alias (target : Nat) (m : Mark) (k : Nat) : a.follow (.alias target m) k =
    if a.limit ≤ k then .error .tooRepetitive
    else
      match a.find? target with
      | some n => .ok (n, k + 1)
      | none => .error (.malformed (.unknownAnchor m)) := by
  unfold Aliases.follow
  show (ite (a.limit ≤ k) _ _ : Reader Node) k = _
  by_cases limit : a.limit ≤ k
  · rw [if_pos limit, if_pos limit]
    rfl
  · rw [if_neg limit, if_neg limit]
    show (match a.find? target with
      | some n => pure n
      | none => throw (.malformed (.unknownAnchor m)) : Reader Node) (k + 1) = _
    cases a.find? target <;> rfl

theorem follows_follow (aliases : a.Varied n a') (varied : Varied n x y) :
    Follows (Varied n) (a.follow x) (a'.follow y) := by
  cases varied with
  | aliased target m m' =>
    intro k z k' done
    rw [follow_alias] at done ⊢
    rw [← aliases.limit]
    have there := aliases.find? target
    generalize a.find? target = found at done there
    generalize a'.find? target = found' at there ⊢
    by_cases limit : a.limit ≤ k
    · rw [if_pos limit] at done
      cases done
    · rw [if_neg limit] at done ⊢
      cases there with
      | none => cases done
      | some related =>
        cases done
        exact ⟨_, rfl, related⟩
  | scalar p style text m m' => exact .pure (.scalar p style text m m')
  | number m m' untagged before after => exact .pure (.number m m' untagged before after)
  | sequence p m m' each => exact .pure (.sequence p m m' each)
  | mapping p m m' each => exact .pure (.mapping p m m' each)

theorem follows_readText (aliases : a.Varied n a') (path path' : Path) (expected expected' : String)
    (varied : Varied n x y) : Follows (Varies n) (readText a path expected x) (readText a' path' expected' y) := by
  refine (follows_follow aliases varied).bind fun z z' varied => ?_
  cases varied with
  | scalar p style text m m' => exact .pure (.refl n text)
  | number m m' untagged before after => exact .pure (.inr ⟨⟨_, before⟩, after⟩)
  | _ => exact .of_fails (fails_refuse path expected _)

theorem follows_readInteger {α : Type} (aliases : a.Varied n a') (path path' : Path) (expected : String)
    {convert : Int → Reader α} (converts : ∀ i, Follows Any (convert i) (convert n)) (fits : Width.fitsInt64 n = true)
    (varied : Varied n x y) :
    Follows Any (readInteger a path expected convert x) (readInteger a' path' expected convert y) := by
  refine (follows_follow aliases varied).bind fun z z' varied => ?_
  cases varied with
  | scalar p style text m m' =>
    dsimp only
    cases (Plain.integer? text).filter fun i => isPlainOr intTag p style && Width.fitsInt64 i with
    | some i => exact .located path path' m m' (.refl (fun _ => trivial) _)
    | none => exact .of_fails (fails_refuse path expected _)
  | @number p text text' k m m' untagged before after =>
    have whole : ((Plain.integer? text').filter fun i => isPlainOr intTag p .plain && Width.fitsInt64 i) = some n := by
      rw [after.integer?, Option.filter_some, fits]
      rfl
    dsimp only
    rw [whole]
    cases (Plain.integer? text).filter fun i => isPlainOr intTag p .plain && Width.fitsInt64 i with
    | some i => exact .located path path' m m' (converts i)
    | none => exact .of_fails (fails_refuse path expected _)
  | _ => exact .of_fails (fails_refuse path expected _)

theorem follows_toInt32 (fits : Width.fitsInt32 n = true) (i : Int) : Follows Any (toInt32 i) (toInt32 n) := by
  unfold toInt32
  rw [if_pos fits]
  split
  · exact .pure trivial
  · exact .of_fails (.mismatch _)

theorem follows_readBoolean (aliases : a.Varied n a') (path path' : Path) (varied : Varied n x y) :
    Follows Any (readBoolean a path x) (readBoolean a' path' y) := by
  refine (follows_follow aliases varied).bind fun z z' varied => ?_
  cases varied with
  | scalar p style text m m' =>
    dsimp only
    cases (Plain.bool? text).filter fun _ => isPlainOr boolTag p style with
    | some b => exact .pure trivial
    | none => exact .of_fails (fails_refuse path "a boolean" _)
  | number m m' untagged before after =>
    dsimp only
    rw [before.bool?]
    exact .of_fails (fails_refuse path "a boolean" _)
  | _ => exact .of_fails (fails_refuse path "a boolean" _)

theorem follows_readTime (aliases : a.Varied n a') (path path' : Path) (varied : Varied n x y) :
    Follows Any (readTime a path x) (readTime a' path' y) := by
  refine (follows_follow aliases varied).bind fun z z' varied => ?_
  cases varied with
  | scalar p style text m m' =>
    dsimp only
    cases Timestamp.parse text with
    | ok t => exact .pure trivial
    | error e => exact .of_fails (.located path m (.mismatch _))
  | @number p text text' k m m' untagged before after =>
    dsimp only
    cases read : Timestamp.parse text with
    | ok t => exact absurd read (before.parse_ne_ok t)
    | error e => exact .of_fails (.located path m (.mismatch _))
  | _ => exact .of_fails (fails_refuse path "a timestamp string" _)

/-- A number is not absent. -/
theorem follows_isAbsent (varied : Varied n x y) : Follows Eq x.isAbsent y.isAbsent := by
  cases varied with
  | scalar p style text m m' => exact .refl (fun _ => rfl) _
  | @number p text text' k m m' untagged before after =>
    have absent : ∀ {t i m}, Plain.Writes t i → isAbsent (.scalar p .plain t m) = pure false := by
      intro t i m writes
      simp [isAbsent, untagged, writes.isNull, writes.isEmpty]
    rw [absent before, absent after]
    exact .pure rfl
  | _ => exact .pure rfl

variable {α : Type} {R : α → α → Prop} {read read' : Path → Node → Reader α} {path path' : Path}

/-! Collections are read part by part. -/

theorem isEmptyPlain_of_writes {text : String} {k : Int} (writes : Plain.Writes text k) (style : ScalarStyle) :
    isEmptyPlain style text = false := by
  rw [isEmptyPlain, writes.isEmpty, Bool.and_false]

theorem follows_readItems
    (reads : ∀ step step' x y, Varied n x y → Follows R (read (step :: path) x) (read' (step' :: path') y))
    (i : Nat) {xs ys : List Node} (each : List.Forall₂ (Varied n) xs ys) :
    Follows Any (readItems read path i xs) (readItems read' path' i ys) := by
  induction each generalizing i with
  | nil => exact .pure trivial
  | cons here others ih =>
    exact (reads _ _ _ _ here).bind fun v v' _ => (ih (i + 1)).bind fun vs vs' _ => .pure trivial

theorem follows_readList (aliases : a.Varied n a')
    (reads : ∀ step step' x y, Varied n x y → Follows R (read (step :: path) x) (read' (step' :: path') y))
    (varied : Varied n x y) : Follows Any (readList a path read x) (readList a' path' read' y) := by
  refine (follows_follow aliases varied).bind fun z z' varied => ?_
  cases varied with
  | sequence p m m' each => exact .located path path' m m' (follows_readItems reads 0 each)
  | scalar p style text m m' =>
    dsimp only
    split
    · exact .pure trivial
    · exact .of_fails (fails_refuse path "a sequence" _)
  | number m m' untagged before after =>
    dsimp only
    rw [isEmptyPlain_of_writes before .plain, if_neg Bool.false_ne_true]
    exact .of_fails (fails_refuse path "a sequence" _)
  | _ => exact .of_fails (fails_refuse path "a sequence" _)

theorem follows_readEntries (aliases : a.Varied n a')
    (reads : ∀ step step' x y, Varied n x y → Follows R (read (step :: path) x) (read' (step' :: path') y))
    (expected later : String) {xs ys : List (Node × Node)} (each : List.Forall₂ (Both (Varied n)) xs ys) :
    Follows Any (readEntries a read path expected later xs) (readEntries a' read' path' expected later ys) := by
  induction each generalizing expected with
  | nil => exact .pure trivial
  | cons here others ih =>
    obtain ⟨name, value⟩ := here
    exact (follows_readText aliases path path' expected expected name).bind fun t t' _ =>
      (reads _ _ _ _ value).bind fun v v' _ => (ih later).bind fun vs vs' _ => .pure trivial

theorem follows_readMap (aliases : a.Varied n a')
    (reads : ∀ step step' x y, Varied n x y → Follows R (read (step :: path) x) (read' (step' :: path') y))
    (varied : Varied n x y) : Follows Any (readMap a path read x) (readMap a' path' read' y) := by
  refine (follows_follow aliases varied).bind fun z z' varied => ?_
  cases varied with
  | mapping p m m' each =>
    exact .located path path' m m'
      ((follows_readEntries aliases reads "a string" "a string" each).map fun _ _ _ => trivial)
  | scalar p style text m m' =>
    dsimp only
    split
    · exact .pure trivial
    · exact .of_fails (fails_refuse path "a map" _)
  | number m m' untagged before after =>
    dsimp only
    rw [isEmptyPlain_of_writes before .plain, if_neg Bool.false_ne_true]
    exact .of_fails (fails_refuse path "a map" _)
  | _ => exact .of_fails (fails_refuse path "a map" _)

/-- A number that free data can hold is read wherever something is. -/
theorem follows_freeScalar (fits : Width.fits64 n = true) (r : Resolved) :
    Follows Any (freeScalar r) (freeScalar (.int n)) := by
  have read : freeScalar (.int n) = pure (Value.int n) := if_pos fits
  rw [read]
  cases r with
  | int i =>
    show Follows Any (if Width.fits64 i then pure (Value.int i) else mismatch .wideNumber) _
    split
    · exact .pure trivial
    · exact .of_fails (.mismatch _)
  | _ => exact .pure trivial

theorem fits128_of_fits64 (fits : Width.fits64 n = true) : Width.fits128 n = true := by
  simp only [Width.fits64, Width.fits128, Bool.and_eq_true, decide_eq_true_eq] at fits ⊢
  omega

/-- A scalar as free data. -/
def readFreeScalar (path : Path) (m : Mark) (p : Properties) (style : ScalarStyle) (text : String) : Reader Value :=
  located path m do
    if (p.tag.map isLocalTag).getD false then mismatch (.wrongType .tagged "any valid JSON value")
    match meaning p.tag style text with
    | .ok r => freeScalar r
    | .error cause => mismatch cause

theorem follows_readFreeScalar (fits : Width.fits64 n = true) {p p' : Properties} {style style' : ScalarStyle}
    {text text' : String} {m m' : Mark} (varied : Varied n (.scalar p style text m) (.scalar p' style' text' m')) :
    Follows Any (readFreeScalar path m p style text) (readFreeScalar path' m' p' style' text') := by
  cases varied with
  | scalar => exact .located path path' m m' (.refl (fun _ => trivial) _)
  | number _ _ untagged before after =>
    refine .located path path' m m' ?_
    have resolved : resolveScalar .plain text' = .int n := after.resolvePlain (fits128_of_fits64 fits)
    simp only [untagged, Option.map_none, Option.getD_none, Bool.false_eq_true, if_false, meaning, resolved]
    exact follows_freeScalar fits _

theorem follows_readFree (aliases : a.Varied n a') (fits : Width.fits64 n = true) (depth : Nat) (path path' : Path)
    (varied : Varied n x y) : Follows Any (readFree a depth path x) (readFree a' depth path' y) := by
  induction depth generalizing x y path path' with
  | zero =>
    unfold readFree
    refine (follows_follow aliases varied).bind fun z z' varied => ?_
    cases varied with
    | scalar p style text m m' => exact follows_readFreeScalar fits (.scalar p style text m m')
    | number m m' untagged before after => exact follows_readFreeScalar fits (.number m m' untagged before after)
    | sequence p m m' each =>
      dsimp only
      split
      · exact .of_fails (.located path m (.mismatch _))
      · exact .of_fails (.throw _)
    | mapping p m m' each =>
      dsimp only
      split
      · exact .of_fails (.located path m (.mismatch _))
      · exact .of_fails (.throw _)
    | aliased target m m' => exact .of_fails (fails_refuse path _ _)
  | succ depth ih =>
    have reads : ∀ step step' x y, Varied n x y →
        Follows Any (readFree a depth (step :: path) x) (readFree a' depth (step' :: path') y) :=
      fun step step' x y varied => ih (step :: path) (step' :: path') varied
    unfold readFree
    refine (follows_follow aliases varied).bind fun z z' varied => ?_
    cases varied with
    | scalar p style text m m' => exact follows_readFreeScalar fits (.scalar p style text m m')
    | number m m' untagged before after => exact follows_readFreeScalar fits (.number m m' untagged before after)
    | sequence p m m' each =>
      dsimp only
      split
      · exact .of_fails (.located path m (.mismatch _))
      · exact .located path path' m m' ((follows_readItems reads 0 each).map fun _ _ _ => trivial)
    | mapping p m m' each =>
      dsimp only
      split
      · exact .of_fails (.located path m (.mismatch _))
      · exact .located path path' m m' ((follows_readEntries aliases reads _ _ each).map fun _ _ _ => trivial)
    | aliased target m m' => exact .of_fails (fails_refuse path _ _)

end Node
end MachineOperator.Yaml
