import MachineOperator.Proofs.Json.Rearranged
import MachineOperator.Release.Build
import Mathlib.Logic.Relation

/-!
What a release server publishes, as JSON texts. What is decoded depends neither on blanks nor on the order of members nor on
members that nobody knows, while a known member that is given twice, and a value of another type, are refused.
-/
namespace MachineOperator
open Relation

namespace Json.Shape
variable {s : Shape} {t t' : Tree} {text text' : List UInt8} {v : s.Carrier}

/-- Any number of changes that do not count leave what is decoded, however the trees are written. -/
theorem decode_of_rearranged (written : t.IsText text) (written' : t'.IsText text')
    (moved : ReflTransGen s.Rearranged t t') (decoded : s.decode text = .ok v) : s.decode text' = .ok v := by
  rw [← toOption_eq_some, s.toOption_decode written] at decoded
  rw [← toOption_eq_some, s.toOption_decode written']
  clear written'
  induction moved with
  | refl => exact decoded
  | tail _ step ih => exact step.value?_eq.symm.trans ih

theorem decode_of_refused (written : t.IsText text) (refused : s.Refused t) : ∃ e, s.decode text = .error e := by
  rw [← toOption_eq_none, s.toOption_decode written]
  exact refused.value?_eq_none

/-- An object with members that nobody knows is decoded as a record of which everything is left out. -/
theorem decode_of_unknown {name : String} {members : Members} {ms : List (Spelling × Tree)} {v : members.Carrier}
    (written : (Tree.object ms).IsText text)
    (unknown : ∀ m ∈ ms, ∃ key, m.1.text? = some key ∧ members.find? key = none)
    (blank : members.finish members.noSlots = .ok v) : (record name members).decode text = .ok v := by
  refine toOption_eq_some.1 ((toOption_decode _ written).trans ?_)
  rw [value?_object, Members.foldlM_unknown unknown, Option.bind_some, blank]
  rfl

end Json.Shape

namespace Release
open Json

/-- All that is known: the keys of an index of builds, of a build and of an image, with whether each may be left out. -/
theorem records_eq :
    BuildIndex.shape.records = [("BuildIndex", [("builds", true)])] ∧
      BuildMeta.shape.records = [("BuildMeta", [("amis", true)]), ("RegionImage", [("name", false), ("hvm", false)])] :=
  ⟨rfl, rfl⟩

/-- An index of builds and the images of a build are decoded alike from all texts of a tree, and of the trees that come from
it by changes of the order of members and by members that nobody knows. A tree in which a known member is given twice, in
which an image lacks one, or in which a value has another type is refused. Builds and images that are left out are none. -/
theorem decode_rearranged_or_refused {t t' : Tree} {text text' : List UInt8} (written : t.IsText text)
    (written' : t'.IsText text') :
    (ReflTransGen BuildIndex.shape.Rearranged t t' → ∀ index,
        BuildIndex.decode text = .ok index → BuildIndex.decode text' = .ok index) ∧
      (ReflTransGen BuildMeta.shape.Rearranged t t' → ∀ build,
        BuildMeta.decode text = .ok build → BuildMeta.decode text' = .ok build) ∧
      (BuildIndex.shape.Refused t → ∃ e, BuildIndex.decode text = .error e) ∧
      (BuildMeta.shape.Refused t → ∃ e, BuildMeta.decode text = .error e) ∧
      ∀ ms, t = .object ms →
        ((∀ m ∈ ms, ∃ key, m.1.text? = some key ∧ key ≠ "builds") → BuildIndex.decode text = .ok ⟨[]⟩) ∧
          ((∀ m ∈ ms, ∃ key, m.1.text? = some key ∧ key ≠ "amis") → BuildMeta.decode text = .ok ⟨[]⟩) := by
  refine ⟨fun moved index decoded => ?_, fun moved build decoded => ?_, fun refused => ?_, fun refused => ?_, ?_⟩
  · obtain ⟨v, decoded, same⟩ := map_eq_ok.1 decoded
    exact map_eq_ok.2 ⟨v, Shape.decode_of_rearranged written written' moved decoded, same⟩
  · obtain ⟨v, decoded, same⟩ := map_eq_ok.1 decoded
    exact map_eq_ok.2 ⟨v, Shape.decode_of_rearranged written written' moved decoded, same⟩
  · obtain ⟨e, failed⟩ := Shape.decode_of_refused written refused
    exact ⟨e, by rw [BuildIndex.decode, failed]; rfl⟩
  · obtain ⟨e, failed⟩ := Shape.decode_of_refused written refused
    exact ⟨e, by rw [BuildMeta.decode, failed]; rfl⟩
  · rintro ms rfl
    refine ⟨fun others => ?_, fun others => ?_⟩
    · have decoded : BuildIndex.shape.decode text = .ok ([], ()) :=
        Shape.decode_of_unknown written (fun m member => (others m member).imp fun _ p => ⟨p.1, if_neg p.2⟩) rfl
      exact map_eq_ok.2 ⟨_, decoded, rfl⟩
    · have decoded : BuildMeta.shape.decode text = .ok ([], ()) :=
        Shape.decode_of_unknown written (fun m member => (others m member).imp fun _ p => ⟨p.1, if_neg p.2⟩) rfl
      exact map_eq_ok.2 ⟨_, decoded, rfl⟩

namespace Build.Sample

def plain? (c : Char) : Option Piece :=
  if allowed : 0x20 ≤ c.toNat ∧ c ≠ '"' ∧ c ≠ '\\' then some (.plain c allowed) else none

def spell (text : String) : Spelling := text.toList.filterMap plain?

def word (text : String) : Tree := .string (spell text)

def member (name : String) (t : Tree) : Spelling × Tree := (spell name, t)

theorem text?_amis : (spell "amis").text? = some "amis" := by decide +kernel

def null : Tree := .literal .null

def hex (n : Nat) : HexDigit := if small : n < 16 then ⟨⟨n, small⟩, false⟩ else ⟨⟨0, by decide⟩, false⟩

def digits (n : Nat) : Digits := if small : n < 10 then ⟨⟨n, small⟩, []⟩ else ⟨⟨0, by decide⟩, []⟩

def image : Tree := .object [member "name" (word "r"), member "hvm" (word "a")]

/-- The same in another order. -/
def image' : Tree := .object [member "hvm" (word "a"), member "name" (word "r")]

/-- A value that nobody needs, with a number and half a character. -/
def extra : Tree :=
  .object [member "size" (.number ⟨true, .zero, some (digits 5), some ⟨true, some .minus, digits 9⟩⟩),
    member "names" (.list [.list [null], .string [.letter .quote, .unit ⟨hex 13, hex 8, hex 0, hex 0⟩]])]

def images : Tree := .object [member "amis" (.list [image])]

def images' : Tree := .object [member "oscontainer" extra, member "amis" (.list [image'])]

theorem images_rearranged : ReflTransGen BuildMeta.shape.Rearranged images images' := by
  have other : (spell "oscontainer").text? = some "oscontainer" := by decide +kernel
  refine .head (.member [] [] (spell "amis") text?_amis rfl (.item [] [] (.reordered (.swap _ _ _)))) ?_
  exact .single (.inserted [] _ (spell "oscontainer") extra other (by decide))

/-- A text with blanks around it. -/
def spaced (t : Tree) : List UInt8 := 0x20 :: t.print [0x0a]

theorem isText_spaced (t : Tree) : t.IsText (spaced t) :=
  ⟨_, _, .more (by decide) .none, t.spans_print _, .more (by decide) .none⟩

/-- The name of the images, of which the first letter is escaped. -/
def escaped : Spelling := .unit ⟨hex 0, hex 0, hex 6, hex 1⟩ :: spell "mis"

theorem text?_escaped : escaped.text? = some "amis" := by decide +kernel

def repeated : Tree := .object [member "amis" (.list []), member "other" null, (escaped, .list [])]

theorem repeated_refused : BuildMeta.shape.Refused repeated :=
  .repeated [] [_] [] (spell "amis") escaped (.list []) (.list []) text?_amis text?_escaped rfl

def nulled : Tree := .object [member "amis" null]

theorem nulled_refused : BuildMeta.shape.Refused nulled :=
  .member [] [] (spell "amis") text?_amis rfl (.noList nofun)

/-- An image of which one member is given. -/
def lacking (given : String) : Tree := .object [member "amis" (.list [.object [member given (word "r")]])]

theorem lacking_refused {given missing : String} (absent : (spell given).text? ≠ some missing)
    (required : [("name", false), ("hvm", false)].lookup missing = some false) : BuildMeta.shape.Refused (lacking given) := by
  have inside : RegionImage.shape.Refused (.object [member given (word "r")]) :=
    .of_missing required fun m only => by rwa [List.mem_singleton.1 only]
  exact .member [] [] (spell "amis") text?_amis rfl (.item [] [] inside)

theorem decode_rearranged_or_refused_sample :
    BuildMeta.decode (spaced images') = .ok ⟨[⟨"r", "a"⟩]⟩ ∧
      (∃ e, BuildMeta.decode (repeated.print []) = .error e) ∧
      (∃ e, BuildMeta.decode (nulled.print []) = .error e) ∧
      (∃ e, BuildMeta.decode ((lacking "name").print []) = .error e) ∧
      (∃ e, BuildMeta.decode ((lacking "hvm").print []) = .error e) ∧
      BuildIndex.decode (images.print []) = .ok ⟨[]⟩ := by
  obtain ⟨_, alike, _⟩ := decode_rearranged_or_refused images.isText_print (isText_spaced images')
  obtain ⟨_, _, _, twice, _⟩ := decode_rearranged_or_refused repeated.isText_print repeated.isText_print
  obtain ⟨_, _, _, noList, _⟩ := decode_rearranged_or_refused nulled.isText_print nulled.isText_print
  obtain ⟨_, _, _, noImage, _⟩ :=
    decode_rearranged_or_refused (lacking "name").isText_print (lacking "name").isText_print
  obtain ⟨_, _, _, noName, _⟩ := decode_rearranged_or_refused (lacking "hvm").isText_print (lacking "hvm").isText_print
  obtain ⟨_, _, _, _, leftOut⟩ := decode_rearranged_or_refused images.isText_print images.isText_print
  have decoded : BuildMeta.decode (images.print []) = .ok ⟨[⟨"r", "a"⟩]⟩ := rfl
  have nameGiven : (spell "name").text? ≠ some "hvm" := by decide +kernel
  have imageGiven : (spell "hvm").text? ≠ some "name" := by decide +kernel
  refine ⟨alike images_rearranged _ decoded, twice repeated_refused, noList nulled_refused,
    noImage (lacking_refused nameGiven rfl), noName (lacking_refused imageGiven rfl), ?_⟩
  refine (leftOut _ rfl).1 fun m member => ?_
  obtain rfl := List.mem_singleton.1 member
  exact ⟨"amis", by decide +kernel, by decide⟩

end Build.Sample

end Release
end MachineOperator
