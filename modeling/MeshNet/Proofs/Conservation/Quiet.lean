import MeshNet.Proofs.Conservation.Mail
import MeshNet.Proofs.Event.Atomic

namespace MeshNet

namespace Mesh

variable {φ : Type}

structure Quiet (mesh mesh' : Mesh φ) : Prop where
  inFlight : mesh'.network.inFlight = mesh.network.inFlight
  traffic : mesh'.network.traffic = mesh.network.traffic
  mail : mesh'.fleet.mail = mesh.fleet.mail

theorem Quiet.refl (mesh : Mesh φ) : Quiet mesh mesh := ⟨rfl, rfl, rfl⟩

theorem Quiet.trans {a b c : Mesh φ} (h : Quiet a b) (h' : Quiet b c) : Quiet a c :=
  ⟨h'.inFlight.trans h.inFlight, h'.traffic.trans h.traffic, h'.mail.trans h.mail⟩

end Mesh

namespace Fleet

variable {φ : Type}

theorem mail_revise {f g : Fleet φ} {id : NodeId} {act : Node φ → Checked (Node φ)}
    (h : f.revise id act = .ok g)
    (kept : ∀ n m, act n = .ok m → m.metrics.mail = n.metrics.mail) : g.mail = f.mail := by
  rw [revise] at h
  split at h
  · cases h
    rfl
  · next n hn =>
    obtain ⟨m, hm, h⟩ := Checked.map_eq_ok.1 h
    cases h
    exact mail_replace hn (kept n m hm)

theorem mail_assignGroups (groups : Groups) (f : Fleet φ) :
    (f.assignGroups groups).mail = f.mail := by
  refine assignGroups_induction (P := fun g => g.mail = f.mail) rfl (fun g id tag h => ?_) groups
  rw [← h]
  exact mail_modify fun _ => rfl

end Fleet

namespace Event

variable {φ : Type} [Firmware φ]

theorem mail_effect {e : Event} {now : Time} {mesh mesh' : Mesh φ}
    (h : e.effect now mesh = .ok mesh') : mesh'.fleet.mail = mesh.fleet.mail := by
  cases e with
  | start id =>
    obtain ⟨fleet, hf, rfl⟩ := Checked.map_eq_ok.1 h
    refine Fleet.mail_revise hf fun n m hm => ?_
    split at hm
    · cases hm
      rfl
    · exact Node.mail_boot hm
  | stop id graceful =>
    obtain ⟨fleet, hf, rfl⟩ := Checked.map_eq_ok.1 h
    exact Fleet.mail_revise hf fun _ _ hm => Node.mail_stop hm
  | crash id =>
    obtain ⟨fleet, hf, rfl⟩ := Checked.map_eq_ok.1 h
    exact Fleet.mail_revise hf fun _ _ hm => Node.mail_crash hm
  | restart id =>
    obtain ⟨fleet, hf, rfl⟩ := Checked.map_eq_ok.1 h
    exact Fleet.mail_revise hf fun _ _ hm => Node.mail_reboot hm
  | drop l | restore l =>
    cases h
    rfl
  | degrade l latency loss =>
    rw [effect] at h
    split at h
    · cases h
      rfl
    · cases h
      rfl
  | partition groups =>
    cases h
    exact Fleet.mail_assignGroups groups mesh.fleet
  | heal =>
    cases h
    exact Fleet.mail_map fun _ => rfl

theorem perform_quiet {e : Event} {now : Time} {mesh mesh' : Mesh φ}
    {verdict : Except EventError Unit}
    (h : ((e.perform now).run.run mesh : Checked _) = .ok (verdict, mesh')) :
    mesh.Quiet mesh' := by
  obtain ⟨hq, ht⟩ := perform_frame h
  rcases eq_or_effect_of_perform h with rfl | he
  · exact .refl mesh'
  · exact ⟨hq, ht, mail_effect he⟩

end Event

namespace Worklist

variable {φ : Type} [Firmware φ]

theorem perform_quiet {now : Time} {tasks : List (Waiting Event)} {mesh mesh' : Mesh φ}
    {verdicts : List (Waiting Event × Except String Unit)}
    (h : perform now tasks mesh = .ok (verdicts, mesh')) : mesh.Quiet mesh' := by
  induction tasks generalizing mesh verdicts with
  | nil =>
    cases h
    exact .refl _
  | cons task tasks ih =>
    rw [perform, Event.executable_perform_eq] at h
    obtain ⟨⟨verdict, d⟩, hp, h⟩ := Checked.bind_eq_ok.1 h
    obtain ⟨⟨rest, d'⟩, hr, h⟩ := Checked.bind_eq_ok.1 h
    obtain ⟨⟨verdict', d''⟩, he, hv⟩ := Checked.map_eq_ok.1 hp
    cases h
    cases hv
    exact (Event.perform_quiet he).trans (ih hr)

end Worklist

theorem Agenda.run_quiet {φ : Type} [Firmware φ] {a a' : Agenda Event} {now : Time}
    {mesh mesh' : Mesh φ} {count : Nat} (h : a.run now mesh = .ok (count, a', mesh')) :
    mesh.Quiet mesh' := by
  obtain ⟨verdicts, hv, -⟩ := run_eq_ok h
  exact Worklist.perform_quiet hv

end MeshNet
