import MeshNet.Proofs.Conservation.Quiet
import MeshNet.Proofs.Conservation.Run

namespace MeshNet

namespace Simulation

variable {φ : Type}

structure Accounts (s s' : Simulation φ) (l : Ledger φ) (xs : List Exchange) : Prop where
  reports : l.reports = xs.map (·.report)
  balance : s.mesh.network.Balance s'.mesh.network l.offered l.arrived
  mail : ∀ c, s'.mesh.fleet.mail c + (l.removed.map fun n => n.metrics.mail c).sum =
    s.mesh.fleet.mail c + (xs.map (·.mail c)).sum

namespace Accounts

theorem trans {s s' s'' : Simulation φ} {l m : Ledger φ} {xs ys : List Exchange}
    (h : Accounts s s' l xs) (h' : Accounts s' s'' m ys) :
    Accounts s s'' (l.append m) (xs ++ ys) := by
  refine ⟨?_, ?_, fun c => ?_⟩
  · rw [Ledger.append, h.reports, h'.reports, List.map_append]
  · have ho : (l.append m).offered = l.offered + m.offered := by
      simp only [Ledger.offered, Ledger.append, List.map_append, List.sum_append]
      omega
    have ha : (l.append m).arrived = l.arrived + m.arrived := by
      simp only [Ledger.arrived, Ledger.append, List.map_append, List.sum_append]
    rw [ho, ha]
    exact h.balance.trans h'.balance
  · have hc := h.mail c
    have hc' := h'.mail c
    simp only [Ledger.append, List.map_append, List.sum_append]
    omega

theorem of_quiet {s s' : Simulation φ} (h : s.mesh.Quiet s'.mesh) : Accounts s s' {} [] := by
  refine ⟨rfl, .of_frame ⟨h.inFlight, h.traffic⟩, fun c => ?_⟩
  rw [h.mail]
  rfl

theorem refl (s : Simulation φ) : Accounts s s {} [] := of_quiet (.refl s.mesh)

theorem of_network {s : Simulation φ} {network : Network} {offers : Nat}
    (h : s.mesh.network.Balance network offers 0) :
    Accounts s (s.onNetwork network) { offers } [] := by
  refine ⟨rfl, ?_, fun c => rfl⟩
  have ho : ({ offers } : Ledger φ).offered = offers := Nat.zero_add _
  rw [ho]
  exact h

theorem of_fleet {s : Simulation φ} {fleet : Fleet φ} (h : fleet.mail = s.mesh.fleet.mail) :
    Accounts s (s.onFleet fleet) {} [] :=
  of_quiet ⟨rfl, rfl, h⟩

theorem of_enroll {s : Simulation φ} {r : Except NodeError (Fleet φ)}
    (h : ∀ fleet, r = .ok fleet → fleet.mail = s.mesh.fleet.mail) :
    Accounts s (s.enroll r) {} [] := by
  cases r with
  | ok fleet => exact of_fleet (h fleet rfl)
  | error error => exact .refl s

end Accounts

variable [Firmware φ]

theorem advance_accounts {s s' : Simulation φ} {now : Time} {report : StepReport}
    (h : s.advance now = .ok (report, s')) :
    ∃ x, s.exchange now = .ok x ∧ Accounts s s' { reports := [report.update] } [x] := by
  rw [advance] at h
  obtain ⟨⟨executed, agenda, mesh⟩, hr, h⟩ := Checked.bind_eq_ok.1 h
  obtain ⟨⟨update, mesh'⟩, hu, h⟩ := Checked.bind_eq_ok.1 h
  cases h
  obtain ⟨x, hx, rfl, hs⟩ := Mesh.update_spec hu
  -- The pass moves no message, so the update accounts for the whole step.
  have hq := Agenda.run_quiet hr
  have frame : s.mesh.network.Balance mesh.network 0 0 := .of_frame ⟨hq.inFlight, hq.traffic⟩
  refine ⟨x, ?_, rfl, ?_, fun c => ?_⟩
  · rw [exchange, hr]
    exact hx
  · have hb := frame.trans hs.balance
    rw [Nat.zero_add, Nat.zero_add] at hb
    exact hb
  · rw [← hq.mail, List.map_singleton, List.sum_singleton]
    exact hs.mail c

theorem advanceAll_accounts {times : List Time} {s s' : Simulation φ} {reports : List StepReport}
    (h : advanceAll times s = .ok (reports, s')) :
    ∃ xs, exchangeAll times s = .ok xs ∧
      Accounts s s' { reports := reports.map (·.update) } xs := by
  induction times generalizing s reports with
  | nil =>
    cases h
    exact ⟨[], rfl, .refl _⟩
  | cons time times ih =>
    rw [advanceAll] at h
    obtain ⟨⟨report, d⟩, ha, h⟩ := Checked.bind_eq_ok.1 h
    obtain ⟨⟨rest, d'⟩, hr, h⟩ := Checked.bind_eq_ok.1 h
    cases h
    obtain ⟨x, hx, accounts⟩ := advance_accounts ha
    obtain ⟨xs, hxs, rest_accounts⟩ := ih hr
    refine ⟨x :: xs, ?_, accounts.trans rest_accounts⟩
    rw [exchangeAll, hx, ha]
    simp only [Checked.ok_bind, hxs]
    rfl

theorem step_accounts {s s' : Simulation φ} {c : Command φ} {l : Ledger φ}
    (h : s.step c = .ok (l, s')) : ∃ xs, s.exchangesOf c = .ok xs ∧ Accounts s s' l xs := by
  cases c with
  | schedule e time =>
    cases h
    exact ⟨[], rfl, .of_quiet (.refl s.mesh)⟩
  | advance now =>
    obtain ⟨⟨report, d⟩, ha, h⟩ := Checked.bind_eq_ok.1 h
    cases h
    have hs : advanceAll [now] s = .ok ([report], s') := by
      rw [advanceAll, ha]
      rfl
    exact advanceAll_accounts hs
  | runUntil last stride =>
    obtain ⟨⟨reports, d⟩, ha, h⟩ := Checked.bind_eq_ok.1 h
    cases h
    exact advanceAll_accounts ha
  | add id =>
    cases h
    exact ⟨[], rfl, .of_enroll fun _ hf => Fleet.mail_add hf⟩
  | create catalogue spec =>
    cases h
    exact ⟨[], rfl, .of_enroll fun _ hf => Fleet.mail_create hf⟩
  | startAll now =>
    obtain ⟨⟨started, fleet⟩, hf, h⟩ := Checked.bind_eq_ok.1 h
    cases h
    exact ⟨[], rfl, .of_fleet (Fleet.mail_startAll hf)⟩
  | stopAll now =>
    obtain ⟨⟨stopped, fleet⟩, hf, h⟩ := Checked.bind_eq_ok.1 h
    cases h
    exact ⟨[], rfl, .of_fleet (Fleet.mail_stopAll hf)⟩
  | remove id now =>
    obtain ⟨⟨removed, fleet⟩, hf, h⟩ := Checked.bind_eq_ok.1 h
    cases h
    exact ⟨[], rfl, rfl, .of_frame ⟨rfl, rfl⟩, fun c => Fleet.mail_remove hf c⟩
  | configure setting =>
    cases h
    exact ⟨[], rfl, .of_network (.of_frame (s.mesh.network.configure_frame setting))⟩
  | cut l | mend l | mendAll =>
    cases h
    exact ⟨[], rfl, .of_network (.of_frame ⟨rfl, rfl⟩)⟩
  | offer m now =>
    cases h
    exact ⟨[], rfl, .of_network (s.mesh.network.enqueue_balance m now)⟩

theorem steps_accounts {cs : List (Command φ)} {s s' : Simulation φ} {l : Ledger φ}
    (h : steps cs s = .ok (l, s')) : ∃ xs, exchanges cs s = .ok xs ∧ Accounts s s' l xs := by
  induction cs generalizing s l with
  | nil =>
    cases h
    exact ⟨[], rfl, .refl _⟩
  | cons c cs ih =>
    rw [steps] at h
    obtain ⟨⟨m, d⟩, hs, h⟩ := Checked.bind_eq_ok.1 h
    obtain ⟨⟨ms, d'⟩, hr, h⟩ := Checked.bind_eq_ok.1 h
    cases h
    obtain ⟨xs, hxs, accounts⟩ := step_accounts hs
    obtain ⟨ys, hys, rest_accounts⟩ := ih hr
    refine ⟨xs ++ ys, ?_, accounts.trans rest_accounts⟩
    rw [exchanges, hxs, hs]
    simp only [Checked.ok_bind, hys]
    rfl

theorem messages_are_conserved (conditions : Conditions) (cs : List (Command φ)) :
    (∀ l s, steps cs (.ofNetwork { conditions }) = .ok (l, s) →
      ∃ xs, exchanges cs (.ofNetwork { conditions } : Simulation φ) = .ok xs ∧
        l.reports = xs.map (·.report) ∧
        s.mesh.network.traffic.total.delivered =
          (l.reports.map fun r => r.delivered + r.undeliverable).sum +
            s.mesh.network.inFlight.size ∧
        s.mesh.network.traffic.total.delivered + s.mesh.network.traffic.total.dropped =
          (l.reports.map (·.sent)).sum + l.offers ∧
        ((s.mesh.fleet.toList ++ l.removed).map (·.metrics.messagesSent)).sum =
          (xs.flatMap (·.flushed)).length ∧
        ((s.mesh.fleet.toList ++ l.removed).map (·.metrics.bytesSent)).sum =
          ((xs.flatMap (·.flushed)).map (·.payload.length)).sum ∧
        ((s.mesh.fleet.toList ++ l.removed).map (·.metrics.messagesReceived)).sum =
          (xs.flatMap (·.handed)).length ∧
        ((s.mesh.fleet.toList ++ l.removed).map (·.metrics.bytesReceived)).sum =
          ((xs.flatMap (·.handed)).map (·.payload.length)).sum) ∧
    ∀ (mesh mesh' : Mesh φ) (now : Time) (report : UpdateReport),
      mesh.update now = .ok (report, mesh') →
        ∃ x, mesh.exchange now = .ok x ∧ report = x.report ∧
          mesh'.network.inFlight =
            x.taken.foldl (fun q e => q.insert e.1 e.2) (mesh.network.inFlight.after now) ∧
          ∀ n ∈ mesh'.fleet.toList, n.outbox = [] := by
  refine ⟨fun l s h => ?_, fun mesh mesh' now report h => ?_⟩
  · obtain ⟨xs, hx, accounts⟩ := steps_accounts h
    obtain ⟨hd, ho⟩ := accounts.balance.of_fresh
    have hm (c : MailCount) :
        ((s.mesh.fleet.toList ++ l.removed).map fun n => n.metrics.mail c).sum =
          ((xs.flatMap (·.flushed)).map fun m => c.sending m.payload).sum +
            ((xs.flatMap (·.handed)).map fun m => c.receiving m.payload).sum := by
      have hc := accounts.mail c
      have h0 : (Simulation.ofNetwork (φ := φ) { conditions }).mesh.fleet.mail c = 0 :=
        congrFun Fleet.mail_empty c
      rw [h0, Nat.zero_add, Exchange.sum_mail] at hc
      rw [List.map_append, List.sum_append]
      exact hc
    refine ⟨xs, hx, accounts.reports, hd, ho, ?_, ?_, ?_, ?_⟩
    · simpa [MailCount.sending, MailCount.receiving, Metrics.mail] using hm .messagesSent
    · simpa [MailCount.sending, MailCount.receiving, Metrics.mail] using hm .bytesSent
    · simpa [MailCount.sending, MailCount.receiving, Metrics.mail] using hm .messagesReceived
    · simpa [MailCount.sending, MailCount.receiving, Metrics.mail] using hm .bytesReceived
  · obtain ⟨x, hx, hr, updated⟩ := Mesh.update_spec h
    exact ⟨x, hx, hr, updated.inFlight, updated.outbox⟩

theorem messages_are_conserved_removed_sender :
    let conditions : Conditions := { source := .seeded 1 }
    let cs : List (Command Builtin) :=
      [.configure (.defaultLatency (.fixed 5)),
        .create .builtins { id := ⟨1⟩, firmware := "simple-broadcast" }, .add ⟨2⟩, .startAll 0,
        .offer ⟨⟨⟨1⟩, ⟨2⟩⟩, [7]⟩ 0, .advance 5, .advance 60000, .remove ⟨1⟩ 60001,
        .runUntil 60010 5]
    let mesh : Mesh Builtin := { network := ((Network.seeded 1).enqueue ⟨⟨⟨1⟩, ⟨2⟩⟩, [7]⟩ 0).2 }
    (∃ l s xs, steps cs (.ofNetwork { conditions }) = .ok (l, s) ∧
      l.reports.map (·.delivered) = [1, 0, 1, 0] ∧
      exchanges cs (.ofNetwork { conditions } : Simulation Builtin) = .ok xs ∧
      l.reports = xs.map (·.report)) ∧
    ∃ mesh' x, mesh.update 100 = .ok ({ undeliverable := 1 }, mesh') ∧
      mesh.exchange 100 = .ok x ∧ x.report = { undeliverable := 1 } := by
  intro conditions cs mesh
  obtain ⟨hrun, hupdate⟩ := messages_are_conserved (φ := Builtin) conditions cs
  have run : (fun r : Ledger Builtin × Simulation Builtin => r.1.reports.map (·.delivered)) <$>
      steps cs (.ofNetwork { conditions }) = .ok [1, 0, 1, 0] := by
    decide +kernel
  have update : (fun r : UpdateReport × Mesh Builtin => r.1) <$> mesh.update 100 =
      .ok { undeliverable := 1 } := by
    decide +kernel
  obtain ⟨⟨l, s⟩, h, hl⟩ := Checked.map_eq_ok.1 run
  obtain ⟨⟨report, mesh'⟩, hu, rfl⟩ := Checked.map_eq_ok.1 update
  obtain ⟨xs, hx, hr, -⟩ := hrun l s h
  obtain ⟨x, hx', hr', -⟩ := hupdate mesh mesh' 100 _ hu
  exact ⟨⟨l, s, xs, h, hl, hx, hr⟩, mesh', x, hu, hx', hr'.symm⟩

end Simulation

end MeshNet
