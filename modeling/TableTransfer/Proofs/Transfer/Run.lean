import TableTransfer.Transfer.Report

namespace TableTransfer

namespace Report

variable {setup : DriverSetup} {r : Registry}

theorem ofRun_of_refused {e : Error} (h : (r.acquire setup.driver setup.fault).1 = .error e)
    (c : Connection) (work : Connection → Work) :
    (ofRun setup r c work).result = .error e ∧ (ofRun setup r c work).connection = c.close.2 ∧
      (ofRun setup r c work).sent = [] := by
  simp only [ofRun]
  split
  · rename_i hok
    rw [hok] at h
    cases h
  · rename_i he
    rw [he] at h
    cases h
    exact ⟨rfl, rfl, rfl⟩

theorem ofRun_of_granted (h : (r.acquire setup.driver setup.fault).1 = .ok ()) (c : Connection)
    (work : Connection → Work) :
    (ofRun setup r c work).result = outcomeOf (work c).result (work c).connection.close.1 ∧
      (ofRun setup r c work).connection = (work c).connection.close.2 ∧
      (ofRun setup r c work).sent = (work c).sent := by
  simp only [ofRun]
  split
  · exact ⟨rfl, rfl, rfl⟩
  · rename_i he
    rw [he] at h
    cases h

end Report

end TableTransfer
