import MachineOperator.Proofs.Release.Server
import MachineOperator.Release.StaticImages
import Mathlib.Data.List.Induction

/-!
Images that are given one by one, and the same images as a build lists them. Of several entries for a region a build's
first one counts, and of those that are given the last one, so that the two answer alike when one of the lists is
reversed.
-/
namespace MachineOperator.Release

namespace BuildMeta
variable {entries : List RegionImage} {region image : String}

/-- The image of a region, for a build of this name. -/
def lookup (found : BuildMeta) (build region : String) : Except LookupError String :=
  match found.imageIn? region with
  | some image => .ok image
  | none => .error (.noImage region build)

theorem lookup_eq_ok {found : BuildMeta} {build : String} :
    found.lookup build region = .ok image ↔ found.imageIn? region = some image := by
  unfold lookup
  cases found.imageIn? region <;> simp

theorem lookup_eq_error {found : BuildMeta} {build : String} {e : LookupError} :
    found.lookup build region = .error e ↔ found.imageIn? region = none ∧ e = .noImage region build := by
  unfold lookup
  cases found.imageIn? region <;> simp [eq_comm]

/-- A release server answers from the description of its newest build. -/
theorem run_resolver_of_description [Url.NameRules] {w : World} {s : Server} {channel build : String} {others : List String}
    {asked asked' : List Url} {found : BuildMeta}
    (index : Server.Fetched w.network .builds (s.buildsAddress channel) BuildIndex.decode asked (.ok ⟨build :: others⟩))
    (described : Server.Fetched w.network .buildMeta (s.metaAddress channel build) BuildMeta.decode asked' (.ok found)) :
    (runFrom w (s.resolver channel region)).1 = found.lookup build region := by
  rw [(Server.run_resolver_of_build region index described).1]
  dsimp only
  cases there : found.imageIn? region with
  | none => exact (lookup_eq_error.2 ⟨there, rfl⟩).symm
  | some image => exact (lookup_eq_ok.2 there).symm

theorem imageIn?_cons (entry : RegionImage) (entries : List RegionImage) (region : String) :
    imageIn? ⟨entry :: entries⟩ region =
      if entry.region = region then some entry.image else imageIn? ⟨entries⟩ region := by
  by_cases here : entry.region = region <;> simp [imageIn?, here]

/-- Where no region has two images, the order of the entries does not count. -/
theorem imageIn?_eq_some_iff_mem (distinct : (entries.map RegionImage.region).Nodup) :
    imageIn? ⟨entries⟩ region = some image ↔ ⟨region, image⟩ ∈ entries := by
  rw [imageIn?_eq_some]
  constructor
  · rintro ⟨before, after, rfl, _⟩
    simp
  · intro member
    obtain ⟨before, after, rfl⟩ := List.append_of_mem member
    refine ⟨before, after, rfl, ?_⟩
    intro entry earlier same
    rw [List.map_append, List.map_cons] at distinct
    exact (List.nodup_append.1 distinct).2.2 _ (List.mem_map_of_mem earlier) region List.mem_cons_self same

theorem imageIn?_reverse (distinct : (entries.map RegionImage.region).Nodup) (region : String) :
    imageIn? ⟨entries.reverse⟩ region = imageIn? ⟨entries⟩ region := by
  have distinct' : (entries.reverse.map RegionImage.region).Nodup := by
    rw [List.map_reverse]
    exact List.pairwise_reverse.2 (distinct.imp Ne.symm)
  apply Option.ext
  intro image
  rw [imageIn?_eq_some_iff_mem distinct, imageIn?_eq_some_iff_mem distinct', List.mem_reverse]

end BuildMeta

namespace StaticImages
variable {entries : List RegionImage} {region image : String}

/-- Images that are given one after another, and maybe one for all regions that have none. -/
def listing (fallback : Option String) (entries : List RegionImage) : StaticImages :=
  entries.foldl (fun s entry => s.withImage entry.region entry.image)
    (match fallback with
    | .none => none
    | some image => everywhere image)

theorem listing_concat (fallback : Option String) (entries : List RegionImage) (entry : RegionImage) :
    listing fallback (entries ++ [entry]) = (listing fallback entries).withImage entry.region entry.image := by
  simp [listing]

@[simp] theorem fallback_listing (fallback : Option String) (entries : List RegionImage) :
    (listing fallback entries).fallback = fallback := by
  induction entries using List.reverseRecOn with
  | nil => cases fallback <;> rfl
  | append_singleton entries entry ih =>
    rw [listing_concat]
    exact ih

/-- What is given last is found first. -/
theorem get?_listing (fallback : Option String) (entries : List RegionImage) (region : String) :
    (listing fallback entries).images.get? region = BuildMeta.imageIn? ⟨entries.reverse⟩ region := by
  induction entries using List.reverseRecOn with
  | nil => cases fallback <;> rfl
  | append_singleton entries entry ih =>
    rw [listing_concat, withImage, Dict.get?_insert, ih, List.reverse_append, List.reverse_cons, List.reverse_nil,
      List.nil_append, List.singleton_append, BuildMeta.imageIn?_cons]
    simp only [eq_comm]

theorem imageIn?_listing (fallback : Option String) (entries : List RegionImage) (region : String) :
    (listing fallback entries).imageIn? region = (BuildMeta.imageIn? ⟨entries.reverse⟩ region).or fallback := by
  rw [imageIn?, get?_listing, fallback_listing, Option.orElse_eq_orElse, Option.orElse_eq_or]

/-- The entry that counts is the last one for its region. -/
theorem imageIn?_reverse_eq_some :
    BuildMeta.imageIn? ⟨entries.reverse⟩ region = some image ↔
      ∃ before after, entries = before ++ ⟨region, image⟩ :: after ∧ ∀ entry ∈ after, entry.region ≠ region := by
  rw [BuildMeta.imageIn?_eq_some]
  constructor
  · rintro ⟨before, after, split, others⟩
    refine ⟨after.reverse, before.reverse, ?_, ?_⟩
    · simpa using congrArg List.reverse split
    · exact fun entry member => others entry (List.mem_reverse.1 member)
  · rintro ⟨before, after, rfl, others⟩
    refine ⟨after.reverse, before.reverse, by simp, ?_⟩
    exact fun entry member => others entry (List.mem_reverse.1 member)

theorem lookup_eq_ok {s : StaticImages} : s.lookup region = .ok image ↔ s.imageIn? region = some image := by
  unfold lookup
  cases s.imageIn? region <;> simp

theorem lookup_eq_error {s : StaticImages} {e : LookupError} :
    s.lookup region = .error e ↔ s.imageIn? region = .none ∧ e = .noImage region buildName := by
  unfold lookup
  cases s.imageIn? region <;> simp [eq_comm]

/-- Asking for an image does nothing else. -/
theorem runFrom_resolver (s : StaticImages) (w : World) (channel region : String) :
    runFrom w (s.resolver channel region) = (s.lookup region, w) := rfl

/-- A table without an image for all regions answers as a build that lists the entries backwards. -/
theorem lookup_listing_none (entries : List RegionImage) (region : String) :
    (listing .none entries).imageIn? region = BuildMeta.imageIn? ⟨entries.reverse⟩ region := by
  rw [imageIn?_listing, Option.or_none]

/-- The same image is found, or both say that there is none. -/
theorem same_answer {s : StaticImages} {found : BuildMeta} (same : s.imageIn? region = found.imageIn? region)
    (build : String) :
    (∀ image, s.lookup region = .ok image ↔ found.lookup build region = .ok image) ∧
      (s.lookup region = .error (.noImage region buildName) ↔
        found.lookup build region = .error (.noImage region build)) := by
  refine ⟨fun image => ?_, ?_⟩
  · rw [lookup_eq_ok, BuildMeta.lookup_eq_ok, same]
  · simp [lookup_eq_error, BuildMeta.lookup_eq_error, same]

/-- A build answers with the first entry for a region and a table with the last one, or with the image for all regions
if it has one; what the channel is does not matter to a table. So a table of the reversed entries answers as the build
does, and where no region has two entries the table of the entries themselves does too. A release server whose newest
build is described by the entries answers as the build. -/
theorem listing_answers [Url.NameRules] (entries : List RegionImage) (fallback : Option String) (channel build region : String)
    (w : World) :
    let listed := (BuildMeta.mk entries).lookup build region
    let given := fun fallback entries => runFrom w ((listing fallback entries).resolver channel region)
    let SameAnswer := fun answer : Except LookupError String =>
      (∀ image, answer = .ok image ↔ listed = .ok image) ∧
        (answer = .error (.noImage region "static") ↔ listed = .error (.noImage region build))
    (∀ image, listed = .ok image ↔
      ∃ before after, entries = before ++ ⟨region, image⟩ :: after ∧ ∀ entry ∈ before, entry.region ≠ region) ∧
    (∀ e, listed = .error e ↔ (∀ entry ∈ entries, entry.region ≠ region) ∧ e = .noImage region build) ∧
    (∀ (s : Server) asked asked' others,
      Server.Fetched w.network .builds (s.buildsAddress channel) BuildIndex.decode asked (.ok ⟨build :: others⟩) →
      Server.Fetched w.network .buildMeta (s.metaAddress channel build) BuildMeta.decode asked' (.ok ⟨entries⟩) →
      (runFrom w (s.resolver channel region)).1 = listed) ∧
    (∀ image, given fallback entries = (.ok image, w) ↔
      (∃ before after, entries = before ++ ⟨region, image⟩ :: after ∧ ∀ entry ∈ after, entry.region ≠ region) ∨
        (∀ entry ∈ entries, entry.region ≠ region) ∧ fallback = some image) ∧
    (∀ e, given fallback entries = (.error e, w) ↔
      (∀ entry ∈ entries, entry.region ≠ region) ∧ fallback = .none ∧ e = .noImage region "static") ∧
    SameAnswer (given .none entries.reverse).1 ∧
    ((entries.map RegionImage.region).Nodup → SameAnswer (given .none entries).1) := by
  have backwards : (listing .none entries.reverse).imageIn? region = BuildMeta.imageIn? ⟨entries⟩ region := by
    rw [lookup_listing_none, List.reverse_reverse]
  have unlisted : BuildMeta.imageIn? ⟨entries.reverse⟩ region = .none ↔ ∀ entry ∈ entries, entry.region ≠ region := by
    simp [BuildMeta.imageIn?_eq_none]
  refine ⟨fun image => ?_, fun e => ?_, fun s asked asked' others index described => ?_, fun image => ?_, fun e => ?_,
    same_answer backwards build, fun distinct => ?_⟩
  · rw [BuildMeta.lookup_eq_ok, BuildMeta.imageIn?_eq_some]
  · rw [BuildMeta.lookup_eq_error, BuildMeta.imageIn?_eq_none]
  · exact BuildMeta.run_resolver_of_description index described
  · dsimp only
    rw [runFrom_resolver, Prod.mk.injEq, and_iff_left rfl, lookup_eq_ok, imageIn?_listing, Option.or_eq_some_iff,
      imageIn?_reverse_eq_some, unlisted]
  · dsimp only
    rw [runFrom_resolver, Prod.mk.injEq, and_iff_left rfl, lookup_eq_error, imageIn?_listing, Option.or_eq_none_iff,
      unlisted, and_assoc]
    rfl
  · have forwards := (lookup_listing_none entries region).trans (BuildMeta.imageIn?_reverse distinct region)
    exact same_answer forwards build

/-- Regions that are one the start of the other, and one without a name. -/
def sampleEntries : List RegionImage := [⟨"us-east-1", "ami-1"⟩, ⟨"us-east", "ami-2"⟩, ⟨"", "ami-3"⟩]

/-- One text that is an index of builds and the description of a build. -/
def sampleText : List UInt8 :=
  "\x7b\"builds\": [\"47.1\"], \"amis\": [[\"us-east-1\", \"ami-1\"], [\"us-east\", \"ami-2\"], [\"\", \"ami-3\"]]\x7d".toUTF8.toList

/-- A world in which every address answers with this text. -/
def sampleWorld : World :=
  { environment := .empty, network := fun _ => some ⟨200, sampleText, .none⟩, files := ⟨.empty, []⟩ }

/-- The address of a document of the server. -/
def sampleUrl (names : List String) : Url := ⟨"http", some (.name "a"), .none, .segments names, .none, .none⟩

theorem fetched_sample {operation : Operation} {address : String} {url : Url}
    {decode : List UInt8 → Except Json.Error α} {a : α} (read : Url.parse? address = some url)
    (fit : Http.isSupported url = true) (decoded : decode sampleText = .ok a) :
    Server.Fetched sampleWorld.network operation address decode [url] (.ok a) :=
  .decoded (.sent read fit (.arrived rfl rfl)) rfl decoded

theorem listing_answers_sample :
    (runFrom sampleWorld ((Server.ofUrl "http://a/").resolver "tested" "us-east")).1 = .ok "ami-2" ∧
      (sampleEntries.map RegionImage.region).Nodup ∧
      (listing .none sampleEntries).lookup "us-east" = .ok "ami-2" := by
  have distinct : (sampleEntries.map RegionImage.region).Nodup := by decide
  have listed : (BuildMeta.mk sampleEntries).lookup "47.1" "us-east" = .ok "ami-2" := by decide
  have index : Server.Fetched sampleWorld.network .builds ((Server.ofUrl "http://a/").buildsAddress "tested")
      BuildIndex.decode [sampleUrl ["tested", "builds.json"]] (.ok ⟨["47.1"]⟩) :=
    fetched_sample (by decide +kernel) (by decide +kernel) (by decide +kernel)
  have described : Server.Fetched sampleWorld.network .buildMeta ((Server.ofUrl "http://a/").metaAddress "tested" "47.1")
      BuildMeta.decode [sampleUrl ["tested", "47.1", "meta.json"]] (.ok ⟨sampleEntries⟩) :=
    fetched_sample (by decide +kernel) (by decide +kernel) (by decide +kernel)
  have answers := listing_answers sampleEntries .none "tested" "47.1" "us-east" sampleWorld
  have asked := answers.2.2.1 _ _ _ _ index described
  exact ⟨asked.trans listed, distinct, ((answers.2.2.2.2.2.2 distinct).1 "ami-2").2 listed⟩

end StaticImages
end MachineOperator.Release
