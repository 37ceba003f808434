import TableTransfer.Proofs.Transfer.Run
import TableTransfer.Transfer.Pipeline

namespace TableTransfer

variable {σ : Type} {setup : DriverSetup} {c : Connection} {before : Prop}
  {during : σ → Connection → Prop} {after : Work → Prop}

/-- A party that starts with the connection `c`: `before` holds until it works, `during` of what
it works on, and `after` of what the work came to. -/
inductive Party.OnCourse (setup : DriverSetup) (c : Connection) (before : Prop)
    (during : σ → Connection → Prop) (after : Work → Prop) : Party σ → Prop
  | waiting (h : before) : OnCourse setup c before during after ⟨.waiting, c⟩
  | refused {r : Registry} {e : Error} (h : before)
      (hr : (r.acquire setup.driver setup.fault).1 = .error e) :
      OnCourse setup c before during after ⟨.refused e, c⟩
  | granted (h : before) : OnCourse setup c before during after ⟨.granted, c⟩
  | working {s d} (h : during s d) : OnCourse setup c before during after ⟨.working s, d⟩
  | worked {w} (h : after w) :
      OnCourse setup c before during after ⟨.worked w.result, w.connection⟩
  | closed {w} (h : after w) :
      OnCourse setup c before during after
        ⟨.closed (Report.ofWork w {}).result, (Report.ofWork w {}).connection⟩
  | released {w} (h : after w) :
      OnCourse setup c before during after
        ⟨.released (Report.ofWork w {}).result, (Report.ofWork w {}).connection⟩
  | gone {w} (h : after w) :
      OnCourse setup c before during after
        ⟨.gone (Report.ofWork w {}).result, (Report.ofWork w {}).connection⟩
  | denied {r : Registry} {e : Error} (h : before)
      (hr : (r.acquire setup.driver setup.fault).1 = .error e) :
      OnCourse setup c before during after
        ⟨.gone (Report.ofWork ⟨.error e, c, []⟩ {}).result,
          (Report.ofWork ⟨.error e, c, []⟩ {}).connection⟩

theorem Party.isGone_advance {enter : Connection → Except Error (σ × Connection)} {r : Registry}
    {p : Party σ} (h : p.isGone = true) : (p.advance setup enter r).1.isGone = true := by
  obtain ⟨stage, d⟩ := p
  cases stage with
  | gone => rfl
  | waiting | refused | granted | working | worked | closed | released => cases h

namespace Party.OnCourse

variable {p : Party σ}

theorem advance {enter : Connection → Except Error (σ × Connection)} (r : Registry)
    (h : p.OnCourse setup c before during after)
    (henter : ∀ s d, before → enter c = .ok (s, d) → during s d)
    (hfail : ∀ e, before → enter c = .error e → after { result := .error e, connection := c }) :
    (p.advance setup enter r).1.OnCourse setup c before during after := by
  cases h with
  | waiting h =>
      simp only [Party.advance]
      split
      · exact .granted h
      · rename_i hr
        exact .refused h (congrArg Prod.fst hr)
  | refused h hr => exact .denied h hr
  | granted h =>
      simp only [Party.advance]
      split
      · rename_i hs
        exact .working (henter _ _ h hs)
      · rename_i he
        exact .worked (hfail _ h he)
  | working h => exact .working h
  | worked h => exact .closed h
  | closed h => exact .released h
  | released h => exact .gone h
  | gone h => exact .gone h
  | denied h hr => exact .denied h hr

theorem of_working {s : σ} {d : Connection}
    (h : OnCourse setup c before during after ⟨.working s, d⟩) : during s d := by
  cases h with
  | working h => exact h

theorem mono {before' : Prop} {during' : σ → Connection → Prop} {after' : Work → Prop}
    (h : p.OnCourse setup c before during after) (hbefore : before → before')
    (hduring : ∀ s d, during s d → during' s d) (hafter : ∀ w, after w → after' w) :
    p.OnCourse setup c before' during' after' := by
  cases h with
  | waiting h => exact .waiting (hbefore h)
  | refused h hr => exact .refused (hbefore h) hr
  | granted h => exact .granted (hbefore h)
  | working h => exact .working (hduring _ _ h)
  | worked h => exact .worked (hafter _ h)
  | closed h => exact .closed (hafter _ h)
  | released h => exact .released (hafter _ h)
  | gone h => exact .gone (hafter _ h)
  | denied h hr => exact .denied (hbefore h) hr

/-- What holds of the connection before the work, during it and after it, closed or not, holds of
it always. -/
theorem connection_holds {P : Connection → Prop} (h : p.OnCourse setup c before during after)
    (hbefore : before → P c) (hduring : ∀ s d, during s d → P d)
    (hafter : ∀ w, after w → P w.connection) (hclose : ∀ d, P d → P d.close.2) :
    P p.connection := by
  cases h with
  | waiting h | refused h | granted h => exact hbefore h
  | working h => exact hduring _ _ h
  | worked h => exact hafter _ h
  | closed h | released h | gone h => exact hclose _ (hafter _ h)
  | denied h => exact hclose _ (hbefore h)

theorem exists_acquire_eq_ok (setup : DriverSetup) :
    ∃ r : Registry, (r.acquire setup.driver setup.fault).1 = .ok () := by
  refine ⟨{ registrations := [⟨setup.driver, 1⟩] }, ?_⟩
  simp [Registry.acquire, Registry.find?]

theorem exists_report {result : Except Error Nat} {d : Connection}
    (h : OnCourse setup c before during after ⟨.gone result, d⟩) (work : Connection → Work)
    (hwork : ∀ w, after w → (work c).result = w.result ∧ (work c).connection = w.connection) :
    ∃ r, (Report.ofRun setup r c work).result = result ∧
      (Report.ofRun setup r c work).connection = d := by
  cases h with
  | gone h =>
      obtain ⟨hresult, hconnection⟩ := hwork _ h
      obtain ⟨r, hr⟩ := exists_acquire_eq_ok setup
      obtain ⟨hreport, hclosed, -⟩ := Report.ofRun_of_granted hr c work
      refine ⟨r, ?_⟩
      rw [hreport, hclosed, hresult, hconnection]
      exact ⟨rfl, rfl⟩
  | @denied r e h hr =>
      obtain ⟨hreport, hclosed, -⟩ := Report.ofRun_of_refused hr c work
      refine ⟨r, ?_⟩
      rw [hreport, hclosed]
      exact ⟨rfl, rfl⟩

end Party.OnCourse

theorem Registry.acquire_of_no_fault (r : Registry) (d : Driver) :
    (r.acquire d none).1 = .ok () := by
  rw [acquire]
  split <;> rfl

theorem Report.result_ofWork {w : Work} (h : w.connection.closeFault = none) (r : Registry) :
    (ofWork w r).result = w.result := by
  change outcomeOf w.result w.connection.close.1 = w.result
  rw [Connection.close, h]
  cases w.result <;> rfl

theorem Party.OnCourse.of_gone {result : Except Error Nat} {d : Connection}
    (h : OnCourse setup c before during after ⟨.gone result, d⟩) (hfault : setup.fault = none) :
    ∃ w, after w ∧ result = (Report.ofWork w {}).result := by
  cases h with
  | gone h => exact ⟨_, h, rfl⟩
  | @denied r e h hr =>
      rw [hfault, Registry.acquire_of_no_fault] at hr
      cases hr

theorem Report.result_of_ofWork {w : Work} {r : Registry} {n : Nat}
    (h : (ofWork w r).result = .ok n) : w.result = .ok n := by
  change outcomeOf w.result w.connection.close.1 = .ok n at h
  cases hresult : w.result with
  | ok rows =>
      rw [hresult] at h
      cases hclosed : w.connection.close.1 with
      | ok =>
          rw [hclosed] at h
          exact h
      | error e =>
          rw [hclosed] at h
          cases h
  | error e =>
      rw [hresult] at h
      cases h

theorem Party.OnCourse.of_gone_ok {n : Nat} {d : Connection}
    (h : OnCourse setup c before during after ⟨.gone (.ok n), d⟩) :
    ∃ w, after w ∧ w.result = .ok n ∧ d = w.connection.close.2 := by
  generalize hp : (⟨.gone (.ok n), d⟩ : Party σ) = p at h
  cases h with
  | gone h =>
      simp only [Party.mk.injEq, Stage.gone.injEq] at hp
      exact ⟨_, h, Report.result_of_ofWork hp.1.symm, hp.2⟩
  | denied h hr =>
      simp only [Party.mk.injEq, Stage.gone.injEq] at hp
      cases Report.result_of_ofWork hp.1.symm
  | waiting | refused | granted | working | worked | closed | released => cases hp

end TableTransfer
