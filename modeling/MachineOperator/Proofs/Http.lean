import MachineOperator.Proofs.World

/-!
Requests and the redirections that they lead to. Every request has one trail of addresses, each of which is asked once;
following redirections asks the addresses of the trail, and nothing else.
-/
namespace MachineOperator

/-- The world after addresses are asked. -/
def World.asking (w : World) (asked : List Url) : World := { w with requests := w.requests ++ asked }

/-- A request is answered by the network, and remembered. -/
theorem World.run_send_bind (w : World) (url : Url) (next : Option Http.Response → StateM World α) :
    (Web.send url >>= next).run w = (next (w.network url)).run (w.asking [url]) := rfl

namespace Http
variable [Url.NameRules]

/-- How a request goes on from an address while so many redirections may follow: the addresses that are asked, and what
there is at the end. -/
inductive Trail (network : Network) : Nat → Url → List Url → Except Failure (Url × Response) → Prop where
  | unreachable (silent : network url = none) : Trail network limit url [url] (.error (.unreachable url))
  | arrived (answered : network url = some response) (final : response.next? url = none) :
      Trail network limit url [url] (.ok (url, response))
  | tooMany (answered : network url = some response) (onward : response.next? url = some next) :
      Trail network 0 url [url] (.error (.tooManyRedirections url))
  | unsupported (answered : network url = some response) (onward : response.next? url = some next)
      (unfit : isSupported next = false) : Trail network (limit + 1) url [url] (.error (.unsupported next))
  | redirected (answered : network url = some response) (onward : response.next? url = some next)
      (fit : isSupported next = true) (rest : Trail network limit next asked ending) :
      Trail network (limit + 1) url (url :: asked) ending

/-- What a request for an address, given as a text, comes to. Nothing is asked if the text is no address that can be. -/
inductive Visit (network : Network) (address : String) : List Url → Except Failure (Url × Response) → Prop where
  | noUrl (unread : Url.parse? address = none) : Visit network address [] (.error .noUrl)
  | unsupported (read : Url.parse? address = some url) (unfit : isSupported url = false) :
      Visit network address [] (.error (.unsupported url))
  | sent (read : Url.parse? address = some url) (fit : isSupported url = true)
      (trail : Trail network mostRedirections url asked ending) : Visit network address asked ending

theorem exists_trail (network : Network) (limit : Nat) (url : Url) :
    ∃ asked ending, Trail network limit url asked ending := by
  induction limit generalizing url with
  | zero =>
    rcases answered : network url with _ | response
    · exact ⟨_, _, .unreachable answered⟩
    · rcases onward : response.next? url with _ | next
      · exact ⟨_, _, .arrived answered onward⟩
      · exact ⟨_, _, .tooMany answered onward⟩
  | succ limit ih =>
    rcases answered : network url with _ | response
    · exact ⟨_, _, .unreachable answered⟩
    · rcases onward : response.next? url with _ | next
      · exact ⟨_, _, .arrived answered onward⟩
      · by_cases fit : isSupported next = true
        · obtain ⟨asked, ending, rest⟩ := ih next
          exact ⟨_, _, .redirected answered onward fit rest⟩
        · exact ⟨_, _, .unsupported answered onward (Bool.not_eq_true _ ▸ fit)⟩

theorem exists_visit (network : Network) (address : String) : ∃ asked ending, Visit network address asked ending := by
  rcases read : Url.parse? address with _ | url
  · exact ⟨_, _, .noUrl read⟩
  · by_cases fit : isSupported url = true
    · obtain ⟨asked, ending, trail⟩ := exists_trail network mostRedirections url
      exact ⟨_, _, .sent read fit trail⟩
    · exact ⟨_, _, .unsupported read (Bool.not_eq_true _ ▸ fit)⟩

variable {m : Type → Type} [Monad m]

theorem follow_zero (send : Url → m (Option Response)) (url : Url) :
    follow send 0 url = send url >>= fun
      | none => pure (.error (.unreachable url))
      | some response =>
        match response.next? url with
        | none => pure (.ok (url, response))
        | some _ => pure (.error (.tooManyRedirections url)) := by
  delta follow
  refine congrArg (send url >>= ·) (funext fun response => ?_)
  cases response with
  | none => rfl
  | some response =>
    dsimp only
    cases response.next? url <;> rfl

theorem follow_succ (send : Url → m (Option Response)) (limit : Nat) (url : Url) :
    follow send (limit + 1) url = send url >>= fun
      | none => pure (.error (.unreachable url))
      | some response =>
        match response.next? url with
        | none => pure (.ok (url, response))
        | some next => if isSupported next then follow send limit next else pure (.error (.unsupported next)) := by
  delta follow
  refine congrArg (send url >>= ·) (funext fun response => ?_)
  cases response with
  | none => rfl
  | some response =>
    dsimp only
    cases response.next? url <;> rfl

theorem run_follow_zero (w : World) (url : Url) :
    (follow (Web.send (m := StateM World)) 0 url).run w =
      match w.network url with
      | none => (.error (.unreachable url), w.asking [url])
      | some response =>
        match response.next? url with
        | none => (.ok (url, response), w.asking [url])
        | some _ => (.error (.tooManyRedirections url), w.asking [url]) := by
  rw [follow_zero, World.run_send_bind]
  rcases w.network url with _ | response
  · rfl
  · dsimp only
    cases response.next? url <;> rfl

theorem run_follow_succ (w : World) (limit : Nat) (url : Url) :
    (follow (Web.send (m := StateM World)) (limit + 1) url).run w =
      match w.network url with
      | none => (.error (.unreachable url), w.asking [url])
      | some response =>
        match response.next? url with
        | none => (.ok (url, response), w.asking [url])
        | some next =>
          if isSupported next then (follow (Web.send (m := StateM World)) limit next).run (w.asking [url])
          else (.error (.unsupported next), w.asking [url]) := by
  rw [follow_succ, World.run_send_bind]
  rcases w.network url with _ | response
  · rfl
  · dsimp only
    rcases response.next? url with _ | next
    · rfl
    · by_cases fit : isSupported next = true
      · dsimp only
        rw [if_pos fit, if_pos fit]
      · dsimp only
        rw [if_neg fit, if_neg fit]
        rfl

/-- Following redirections asks the addresses of the trail and comes to its end. -/
theorem run_follow {w : World} (trail : Trail w.network limit url asked ending) :
    (follow (Web.send (m := StateM World)) limit url).run w = (ending, w.asking asked) := by
  generalize servers : w.network = network at trail
  induction trail generalizing w with
  | @unreachable url limit silent =>
    cases servers
    cases limit with
    | zero => rw [run_follow_zero, silent]
    | succ limit => rw [run_follow_succ, silent]
  | @arrived url response limit answered final =>
    cases servers
    cases limit with
    | zero => simp only [run_follow_zero, answered, final]
    | succ limit => simp only [run_follow_succ, answered, final]
  | tooMany answered onward =>
    cases servers
    simp only [run_follow_zero, answered, onward]
  | unsupported answered onward unfit =>
    cases servers
    simp only [run_follow_succ, answered, onward, unfit, Bool.false_eq_true, if_false]
  | redirected answered onward fit rest ih =>
    cases servers
    simp only [run_follow_succ, answered, onward, fit, if_true]
    refine (ih (w := w.asking [_]) rfl).trans ?_
    simp only [World.asking, List.append_assoc, List.singleton_append]

theorem run_get {w : World} (visit : Visit w.network address asked ending) :
    (get (Web.send (m := StateM World)) address).run w = (ending, w.asking asked) := by
  unfold get
  cases visit with
  | noUrl unread =>
    rw [unread]
    simp only [World.asking, List.append_nil]
    rfl
  | unsupported read unfit =>
    rw [read]
    simp only [unfit, Bool.false_eq_true, if_false, World.asking, List.append_nil]
    rfl
  | sent read fit trail =>
    rw [read]
    simp only [fit, if_true]
    exact run_follow trail

theorem inquires_get (address : String) : Inquires (get (Web.send (m := StateM World)) address) := by
  intro network
  obtain ⟨asked, ending, visit⟩ := exists_visit network address
  refine ⟨⟨ending, asked, []⟩, fun w servers => ?_⟩
  cases servers
  rw [run_get visit]
  simp only [World.inquiring, World.asking, List.append_nil]

end Http
end MachineOperator
