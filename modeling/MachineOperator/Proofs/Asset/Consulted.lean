import MachineOperator.Proofs.Asset.Essence

/-!
What a generation asks about images. Only for a cluster on AWS anything is asked, and that once; nothing but the answer
makes a difference.
-/
namespace MachineOperator

/-- A state, with the channels and regions that a resolver was asked about. -/
structure Consulted (σ : Type) where
  state : σ
  asked : List (String × String)

namespace Consulted
variable {σ τ : Type}

/-- What is reported is reported as before. -/
instance [Journal (StateM σ)] : Journal (StateM (Consulted σ)) where
  report e := fun x => ((), { x with state := ((Journal.report (m := StateM σ) e).run x.state).2 })

/-- A resolver whose questions are remembered. -/
def resolver (resolve : Resolver (StateM σ)) : Resolver (StateM (Consulted σ)) := fun channel region =>
  ExceptT.mk fun x =>
    let (answer, s) := runFrom x.state (resolve channel region)
    (answer, { state := s, asked := x.asked ++ [(channel, region)] })

/-- What has to be asked for the configuration of a cluster. -/
def questions (c : InstallConfig) : List (String × String) :=
  match c.platform.aws with
  | some platform => [("tested", platform.region)]
  | none => []

theorem questions_of_aws {c : InstallConfig} {name id region : String}
    (essence : c.essence? = some (.aws name id region)) : questions c = [("tested", region)] := by
  obtain ⟨platform, given, _, rfl⟩ := InstallConfig.aws_of_essence? essence
  rw [questions, given]

theorem questions_of_no_aws {c : InstallConfig} (other : ∀ name id region, c.essence? ≠ some (.aws name id region)) :
    questions c = [] := by
  rw [questions]
  cases given : c.platform.aws with
  | some platform => exact absurd (InstallConfig.essence?_of_aws given) (other _ _ _)
  | none => rfl

variable [Journal (StateM σ)] [Journal (StateM τ)]

theorem runFrom_forCluster (resolve : Resolver (StateM σ)) (c : InstallConfig) (authority : CertificateAuthority)
    (x : Consulted σ) :
    runFrom x (OperatorConfig.forCluster (resolver resolve) c authority) =
      let done := runFrom x.state (OperatorConfig.forCluster resolve c authority)
      (done.1, { state := done.2, asked := x.asked ++ questions c }) := by
  have unasked (other : ∀ name id region, c.essence? ≠ some (.aws name id region)) :
      x.asked ++ questions c = x.asked := by
    rw [questions_of_no_aws other, List.append_nil]
  rw [OperatorConfig.runFrom_forCluster, OperatorConfig.runFrom_forCluster]
  rcases essence : c.essence? with _ | (⟨name, id, region⟩ | ⟨name, uri, network, range⟩ | ⟨name, id, region⟩)
  · rw [unasked (by rw [essence]; nofun)]
  · have asked : runFrom (OperatorConfig.rendering x .aws name) (resolver resolve OperatorConfig.channel region) =
        let done := runFrom (OperatorConfig.rendering x.state .aws name) (resolve OperatorConfig.channel region)
        (done.1, { state := done.2, asked := x.asked ++ [("tested", region)] }) := rfl
    dsimp only
    rw [asked, questions_of_aws essence]
    rcases runFrom (OperatorConfig.rendering x.state .aws name) (resolve OperatorConfig.channel region) with
      ⟨cause | image, s⟩ <;> rfl
  · rw [unasked (by rw [essence]; nofun)]
    rfl
  · rw [unasked (by rw [essence]; nofun)]
    rfl

/-- A generation with a resolver whose questions are remembered runs as without, and asks what has to be asked. -/
theorem run_generate (resolve : Resolver (StateM σ)) (a : Asset) (c : InstallConfig) (authority : CertificateAuthority)
    (x : Consulted σ) :
    (a.generate (resolver resolve) c authority).run x =
      let done := (a.generate resolve c authority).run x.state
      (done.1, { state := done.2, asked := x.asked ++ questions c }) := by
  rw [Asset.run_generate, Asset.run_generate, runFrom_forCluster]
  rcases runFrom x.state (OperatorConfig.forCluster resolve c authority) with ⟨cause | config, s⟩ <;> rfl

end Consulted

namespace OperatorConfig
variable {σ τ : Type} [Journal (StateM σ)] [Journal (StateM τ)]

/-- Nothing of the resolver makes a difference but its answer. -/
theorem forCluster_of_answer {resolve : Resolver (StateM σ)} {resolve' : Resolver (StateM τ)} {c : InstallConfig}
    {s : σ} {t : τ} (same : ∀ platform, c.platform.aws = some platform →
      imageFrom s resolve c.clusterName platform.region = imageFrom t resolve' c.clusterName platform.region)
    (authority : CertificateAuthority) :
    (runFrom s (forCluster resolve c authority)).1 = (runFrom t (forCluster resolve' c authority)).1 := by
  rw [result_forCluster, result_forCluster]
  rcases essence : c.essence? with _ | (⟨name, id, region⟩ | ⟨name, uri, network, range⟩ | ⟨name, id, region⟩)
  · rfl
  · obtain ⟨platform, given, rfl, rfl⟩ := InstallConfig.aws_of_essence? essence
    dsimp only
    rw [same platform given]
  · rfl
  · rfl

end OperatorConfig

namespace Asset

/-- Without AWS no resolver makes a difference. -/
theorem generate_of_no_aws {m : Type → Type} [Monad m] [Journal m] {c : InstallConfig} (other : c.platform.aws = none)
    (resolve resolve' : Resolver m) (a : Asset) (authority : CertificateAuthority) :
    a.generate resolve c authority = a.generate resolve' c authority := by
  have same : OperatorConfig.forCluster resolve c authority = OperatorConfig.forCluster resolve' c authority := by
    rw [OperatorConfig.forCluster_eq, OperatorConfig.forCluster_eq]
    rcases essence : c.essence? with _ | (⟨name, id, region⟩ | ⟨name, uri, network, range⟩ | ⟨name, id, region⟩)
    · rfl
    · obtain ⟨platform, given, _⟩ := InstallConfig.aws_of_essence? essence
      rw [other] at given
      cases given
    · rfl
    · rfl
  rw [generate, generate, same]

/-- What comes of a generation depends on the resolver's answer alone. -/
theorem generate_of_answer {σ τ : Type} [Journal (StateM σ)] [Journal (StateM τ)] {resolve : Resolver (StateM σ)}
    {resolve' : Resolver (StateM τ)} {c : InstallConfig} {s : σ} {t : τ}
    (same : ∀ platform, c.platform.aws = some platform →
      OperatorConfig.imageFrom s resolve c.clusterName platform.region =
        OperatorConfig.imageFrom t resolve' c.clusterName platform.region)
    (a : Asset) (authority : CertificateAuthority) :
    ((a.generate resolve c authority).run s).1 = ((a.generate resolve' c authority).run t).1 := by
  have result := OperatorConfig.forCluster_of_answer same authority
  rw [run_generate, run_generate]
  rcases here : runFrom s (OperatorConfig.forCluster resolve c authority) with ⟨result₁, u⟩
  rcases there : runFrom t (OperatorConfig.forCluster resolve' c authority) with ⟨result₂, v⟩
  rw [here, there] at result
  cases result
  cases result₁ <;> rfl

end Asset
end MachineOperator
