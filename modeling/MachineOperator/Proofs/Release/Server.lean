import MachineOperator.Proofs.Http
import MachineOperator.Release.Server

/-!
Lookups on a release server. An image is found exactly when the index of builds and the description of the newest build
are published and the description lists one for the region; otherwise the first step that fails is reported. Nothing is
asked but what these two documents take.
-/
namespace MachineOperator.Release

/-- The image of a region is that of the first entry for it. -/
theorem BuildMeta.imageIn?_eq_some {found : BuildMeta} {region image : String} :
    found.imageIn? region = some image ↔
      ∃ before after, found.images = before ++ ⟨region, image⟩ :: after ∧ ∀ entry ∈ before, entry.region ≠ region := by
  unfold imageIn?
  rw [Option.map_eq_some_iff]
  constructor
  · rintro ⟨⟨place, held⟩, first, rfl⟩
    obtain ⟨here, before, after, split, others⟩ := List.find?_eq_some_iff_append.1 first
    cases of_decide_eq_true here
    refine ⟨before, after, split, ?_⟩
    intro entry member same
    simpa [same] using others entry member
  · rintro ⟨before, after, split, others⟩
    refine ⟨⟨region, image⟩, ?_, rfl⟩
    apply List.find?_eq_some_iff_append.2
    refine ⟨by simp, before, after, split, ?_⟩
    intro entry member
    simp [others entry member]

theorem BuildMeta.imageIn?_eq_none {found : BuildMeta} {region : String} :
    found.imageIn? region = none ↔ ∀ entry ∈ found.images, entry.region ≠ region := by
  simp [imageIn?]

namespace Server
variable [Url.NameRules]

/-- What getting a document from an address comes to: the addresses that are asked on the way, and the document or the
first thing that is wrong. -/
inductive Fetched (network : Http.Network) (operation : Operation) (address : String)
    (decode : List UInt8 → Except Json.Error α) : List Url → Except LookupError α → Prop where
  | request {asked : List Url} {failure : Http.Failure} (visit : Http.Visit network address asked (.error failure)) :
      Fetched network operation address decode asked (.error (.request operation address failure))
  | status {asked : List Url} {url : Url} {response : Http.Response}
      (visit : Http.Visit network address asked (.ok (url, response))) (bad : Http.isError response.status = true) :
      Fetched network operation address decode asked (.error (.status operation address ⟨response.status, url⟩))
  | undecodable {asked : List Url} {url : Url} {response : Http.Response} {cause : Json.Error}
      (visit : Http.Visit network address asked (.ok (url, response))) (good : Http.isError response.status = false)
      (refused : decode response.document = .error cause) :
      Fetched network operation address decode asked (.error (.decode operation address cause))
  | decoded {asked : List Url} {url : Url} {response : Http.Response} {a : α}
      (visit : Http.Visit network address asked (.ok (url, response))) (good : Http.isError response.status = false)
      (read : decode response.document = .ok a) : Fetched network operation address decode asked (.ok a)

theorem exists_fetched (network : Http.Network) (operation : Operation) (address : String)
    (decode : List UInt8 → Except Json.Error α) :
    ∃ asked answer, Fetched network operation address decode asked answer := by
  obtain ⟨asked, ending, visit⟩ := Http.exists_visit network address
  rcases ending with failure | ⟨url, response⟩
  · exact ⟨_, _, .request visit⟩
  · by_cases bad : Http.isError response.status = true
    · exact ⟨_, _, .status visit bad⟩
    · rcases read : decode response.document with cause | a
      · exact ⟨_, _, .undecodable visit (Bool.not_eq_true _ ▸ bad) read⟩
      · exact ⟨_, _, .decoded visit (Bool.not_eq_true _ ▸ bad) read⟩

theorem runFrom_fetch {w : World} {operation : Operation} {address : String} {decode : List UInt8 → Except Json.Error α}
    {asked : List Url} {answer : Except LookupError α}
    (fetched : Fetched w.network operation address decode asked answer) :
    runFrom w (fetch operation address decode) = (answer, w.asking asked) := by
  unfold fetch
  rw [runFrom_bind, runFrom_lift]
  cases fetched with
  | request visit =>
    rw [Http.run_get visit]
    rfl
  | status visit bad =>
    rw [Http.run_get visit]
    simp only [bad, if_true]
    rfl
  | undecodable visit good refused =>
    rw [Http.run_get visit]
    simp only [good, refused, Bool.false_eq_true, if_false]
    rfl
  | decoded visit good read =>
    rw [Http.run_get visit]
    simp only [good, read, Bool.false_eq_true, if_false]
    rfl

variable {network : Http.Network} {s : Server} {channel region : String}

/-- What looking up an image comes to: the addresses that are asked, and the image or the first thing that is wrong. Only
when there is a newest build its description is asked for. -/
inductive LookedUp (network : Http.Network) (s : Server) (channel region : String) :
    List Url → Except LookupError String → Prop where
  | noIndex {asked : List Url} {e : LookupError}
      (index : Fetched network .builds (s.buildsAddress channel) BuildIndex.decode asked (.error e)) :
      LookedUp network s channel region asked (.error e)
  | noBuilds {asked : List Url}
      (index : Fetched network .builds (s.buildsAddress channel) BuildIndex.decode asked (.ok ⟨[]⟩)) :
      LookedUp network s channel region asked (.error (.noBuilds channel))
  | noMeta {asked asked' : List Url} {build : String} {others : List String} {e : LookupError}
      (index : Fetched network .builds (s.buildsAddress channel) BuildIndex.decode asked (.ok ⟨build :: others⟩))
      (found : Fetched network .buildMeta (s.metaAddress channel build) BuildMeta.decode asked' (.error e)) :
      LookedUp network s channel region (asked ++ asked') (.error e)
  | noImage {asked asked' : List Url} {build : String} {others : List String} {described : BuildMeta}
      (index : Fetched network .builds (s.buildsAddress channel) BuildIndex.decode asked (.ok ⟨build :: others⟩))
      (found : Fetched network .buildMeta (s.metaAddress channel build) BuildMeta.decode asked' (.ok described))
      (missing : described.imageIn? region = none) :
      LookedUp network s channel region (asked ++ asked') (.error (.noImage region build))
  | image {asked asked' : List Url} {build : String} {others : List String} {described : BuildMeta} {image : String}
      (index : Fetched network .builds (s.buildsAddress channel) BuildIndex.decode asked (.ok ⟨build :: others⟩))
      (found : Fetched network .buildMeta (s.metaAddress channel build) BuildMeta.decode asked' (.ok described))
      (there : described.imageIn? region = some image) :
      LookedUp network s channel region (asked ++ asked') (.ok image)

theorem exists_lookedUp (network : Http.Network) (s : Server) (channel region : String) :
    ∃ asked answer, LookedUp network s channel region asked answer := by
  obtain ⟨asked, answer, index⟩ := exists_fetched network .builds (s.buildsAddress channel) BuildIndex.decode
  rcases answer with e | ⟨_ | ⟨build, others⟩⟩
  · exact ⟨_, _, .noIndex index⟩
  · exact ⟨_, _, .noBuilds index⟩
  · obtain ⟨asked', answer', found⟩ := exists_fetched network .buildMeta (s.metaAddress channel build) BuildMeta.decode
    rcases answer' with e | described
    · exact ⟨_, _, .noMeta index found⟩
    · rcases there : described.imageIn? region with _ | image
      · exact ⟨_, _, .noImage index found there⟩
      · exact ⟨_, _, .image index found there⟩

theorem runFrom_resolver (w : World) :
    runFrom w (s.resolver channel region) =
      match runFrom w (fetch .builds (s.buildsAddress channel) BuildIndex.decode) with
      | (.error e, v) => (.error e, v)
      | (.ok index, v) =>
        match index.latest? with
        | none => (.error (.noBuilds channel), v)
        | some build =>
          match runFrom (v.reporting (.buildFound channel build))
              (fetch .buildMeta (s.metaAddress channel build) BuildMeta.decode) with
          | (.error e, u) => (.error e, u)
          | (.ok described, u) =>
            match described.imageIn? region with
            | none => (.error (.noImage region build), u)
            | some image => (.ok image, u.reporting (.imageFound channel build region image)) := by
  unfold resolver
  rw [runFrom_bind]
  rcases runFrom w (fetch .builds (s.buildsAddress channel) BuildIndex.decode) with ⟨e | index, v⟩
  · rfl
  · dsimp only
    rcases index.latest? with _ | build
    · rfl
    · dsimp only
      rw [runFrom_bind, runFrom_lift]
      dsimp only
      rw [runFrom_bind]
      have told : ((Journal.report (.buildFound channel build) : StateM World Unit).run v).2 =
          v.reporting (.buildFound channel build) := rfl
      rw [told]
      rcases runFrom (v.reporting (.buildFound channel build))
        (fetch .buildMeta (s.metaAddress channel build) BuildMeta.decode) with ⟨e | described, u⟩
      · rfl
      · dsimp only
        cases described.imageIn? region <;> rfl

/-- When there is a newest build, its description decides. -/
theorem run_resolver_of_build (region : String) {w : World} {asked asked' : List Url} {build : String} {others : List String}
    {answer : Except LookupError BuildMeta}
    (index : Fetched w.network .builds (s.buildsAddress channel) BuildIndex.decode asked (.ok ⟨build :: others⟩))
    (found : Fetched w.network .buildMeta (s.metaAddress channel build) BuildMeta.decode asked' answer) :
    (runFrom w (s.resolver channel region)).1 =
        (match answer with
        | .error e => .error e
        | .ok described =>
          match described.imageIn? region with
          | none => .error (.noImage region build)
          | some image => .ok image) ∧
      (runFrom w (s.resolver channel region)).2.requests = w.requests ++ (asked ++ asked') := by
  have later := runFrom_fetch (w := (w.asking asked).reporting (.buildFound channel build)) found
  rw [runFrom_resolver, runFrom_fetch index]
  simp only [BuildIndex.latest?, List.head?_cons, later]
  rw [← List.append_assoc]
  rcases answer with e | described
  · exact ⟨rfl, rfl⟩
  · dsimp only
    cases described.imageIn? region <;> exact ⟨rfl, rfl⟩

theorem run_resolver {w : World} {asked : List Url} {answer : Except LookupError String}
    (lookedUp : LookedUp w.network s channel region asked answer) :
    (runFrom w (s.resolver channel region)).1 = answer ∧
      (runFrom w (s.resolver channel region)).2.requests = w.requests ++ asked := by
  cases lookedUp with
  | noIndex index =>
    rw [runFrom_resolver, runFrom_fetch index]
    exact ⟨rfl, rfl⟩
  | noBuilds index =>
    rw [runFrom_resolver, runFrom_fetch index]
    exact ⟨rfl, rfl⟩
  | noMeta index found => exact run_resolver_of_build region index found
  | noImage index found missing =>
    have done := run_resolver_of_build region index found
    simpa only [missing] using done
  | image index found there =>
    have done := run_resolver_of_build region index found
    simpa only [there] using done

theorem resolver_eq_ok {w : World} {image : String} :
    (runFrom w (s.resolver channel region)).1 = .ok image ↔
      ∃ asked build others asked' before after,
        Fetched w.network .builds (s.buildsAddress channel) BuildIndex.decode asked (.ok ⟨build :: others⟩) ∧
        Fetched w.network .buildMeta (s.metaAddress channel build) BuildMeta.decode asked'
          (.ok ⟨before ++ ⟨region, image⟩ :: after⟩) ∧
        ∀ entry ∈ before, entry.region ≠ region := by
  constructor
  · intro done
    obtain ⟨asked, answer, lookedUp⟩ := exists_lookedUp w.network s channel region
    rw [(run_resolver lookedUp).1] at done
    subst done
    cases lookedUp with
    | @image _ asked' build others described _ index found there =>
      obtain ⟨before, after, split, unlike⟩ := BuildMeta.imageIn?_eq_some.1 there
      obtain ⟨images⟩ := described
      cases split
      exact ⟨_, build, others, asked', before, after, index, found, unlike⟩
  · rintro ⟨asked, build, others, asked', before, after, index, found, unlike⟩
    have there : BuildMeta.imageIn? ⟨before ++ ⟨region, image⟩ :: after⟩ region = some image :=
      BuildMeta.imageIn?_eq_some.2 ⟨before, after, rfl, unlike⟩
    exact (run_resolver (.image index found there)).1

theorem resolver_eq_error {w : World} {e : LookupError} :
    (runFrom w (s.resolver channel region)).1 = .error e ↔
      (∃ asked, Fetched w.network .builds (s.buildsAddress channel) BuildIndex.decode asked (.error e)) ∨
      (∃ asked, Fetched w.network .builds (s.buildsAddress channel) BuildIndex.decode asked (.ok ⟨[]⟩) ∧
        e = .noBuilds channel) ∨
      ∃ asked build others,
        Fetched w.network .builds (s.buildsAddress channel) BuildIndex.decode asked (.ok ⟨build :: others⟩) ∧
        ((∃ asked', Fetched w.network .buildMeta (s.metaAddress channel build) BuildMeta.decode asked' (.error e)) ∨
          ∃ asked' described,
            Fetched w.network .buildMeta (s.metaAddress channel build) BuildMeta.decode asked' (.ok described) ∧
            (∀ entry ∈ described.images, entry.region ≠ region) ∧ e = .noImage region build) := by
  constructor
  · intro done
    obtain ⟨asked, answer, lookedUp⟩ := exists_lookedUp w.network s channel region
    rw [(run_resolver lookedUp).1] at done
    subst done
    cases lookedUp with
    | noIndex index => exact .inl ⟨_, index⟩
    | noBuilds index => exact .inr (.inl ⟨_, index, rfl⟩)
    | noMeta index found => exact .inr (.inr ⟨_, _, _, index, .inl ⟨_, found⟩⟩)
    | noImage index found missing =>
      exact .inr (.inr ⟨_, _, _, index, .inr ⟨_, _, found, BuildMeta.imageIn?_eq_none.1 missing, rfl⟩⟩)
  · rintro (⟨asked, index⟩ | ⟨asked, index, rfl⟩ | ⟨asked, build, others, index, found⟩)
    · exact (run_resolver (.noIndex index)).1
    · exact (run_resolver (.noBuilds index)).1
    · rcases found with ⟨asked', found⟩ | ⟨asked', described, found, unlike, rfl⟩
      · exact (run_resolver (.noMeta index found)).1
      · exact (run_resolver (.noImage index found (BuildMeta.imageIn?_eq_none.2 unlike))).1

/-- The description of a build is asked for when the index names one first, and nothing else is. -/
theorem resolver_requests (w : World) (s : Server) (channel region : String) :
    ∃ asked answer, Fetched w.network .builds (s.buildsAddress channel) BuildIndex.decode asked answer ∧
      (((∀ build others, answer ≠ .ok ⟨build :: others⟩) ∧
          (runFrom w (s.resolver channel region)).2.requests = w.requests ++ asked) ∨
        ∃ build others asked' answer', answer = .ok ⟨build :: others⟩ ∧
          Fetched w.network .buildMeta (s.metaAddress channel build) BuildMeta.decode asked' answer' ∧
          (runFrom w (s.resolver channel region)).2.requests = w.requests ++ asked ++ asked') := by
  obtain ⟨asked, answer, lookedUp⟩ := exists_lookedUp w.network s channel region
  have asks := (run_resolver lookedUp).2
  cases lookedUp with
  | noIndex index =>
    refine ⟨_, _, index, .inl ⟨?_, asks⟩⟩
    intro build others same
    cases same
  | noBuilds index =>
    refine ⟨_, _, index, .inl ⟨?_, asks⟩⟩
    intro build others same
    cases same
  | noMeta index found | noImage index found | image index found =>
    exact ⟨_, _, index, .inr ⟨_, _, _, _, rfl, found, asks.trans (List.append_assoc ..).symm⟩⟩

/-- What a lookup gives is what the two documents say: the image of the first entry for the region in the description of
the newest build, or else the first thing that is wrong, with the address as it was put together. Nothing is asked but
the index and, if it names a build, the description of the first one. -/
theorem resolver_answers (s : Server) (w : World) (channel region : String) :
    let builds := s.baseUrl ++ "/" ++ channel ++ "/builds.json"
    let metaOf := fun build => s.baseUrl ++ "/" ++ channel ++ "/" ++ build ++ "/meta.json"
    let Index := Fetched w.network .builds builds BuildIndex.decode
    let Meta := fun build => Fetched w.network .buildMeta (metaOf build) BuildMeta.decode
    let done := runFrom w (s.resolver channel region)
    (∀ image, done.1 = .ok image ↔
      ∃ asked build others asked' before after, Index asked (.ok ⟨build :: others⟩) ∧
        Meta build asked' (.ok ⟨before ++ ⟨region, image⟩ :: after⟩) ∧ ∀ entry ∈ before, entry.region ≠ region) ∧
    (∀ e, done.1 = .error e ↔
      (∃ asked, Index asked (.error e)) ∨
      (∃ asked, Index asked (.ok ⟨[]⟩) ∧ e = .noBuilds channel) ∨
      ∃ asked build others, Index asked (.ok ⟨build :: others⟩) ∧
        ((∃ asked', Meta build asked' (.error e)) ∨
          ∃ asked' described, Meta build asked' (.ok described) ∧
            (∀ entry ∈ described.images, entry.region ≠ region) ∧ e = .noImage region build)) ∧
    ∃ asked answer, Index asked answer ∧
      (((∀ build others, answer ≠ .ok ⟨build :: others⟩) ∧ done.2.requests = w.requests ++ asked) ∨
        ∃ build others asked' answer', answer = .ok ⟨build :: others⟩ ∧ Meta build asked' answer' ∧
          done.2.requests = w.requests ++ asked ++ asked') :=
  ⟨fun _ => resolver_eq_ok, fun _ => resolver_eq_error, resolver_requests w s channel region⟩

end Server
end MachineOperator.Release
