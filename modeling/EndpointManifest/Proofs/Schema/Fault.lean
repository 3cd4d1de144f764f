import EndpointManifest.Schema.Fault

/-! What a check that collects its faults finds, and when it finds nothing. -/

namespace EndpointManifest.Checked

variable {α β : Type}

@[simp] theorem map_valid (f : α → β) (a : α) : f <$> Checked.valid a = .valid (f a) := rfl

@[simp] theorem seq_valid (f : α → β) (a : α) :
    Checked.valid f <*> Checked.valid a = .valid (f a) := rfl

@[simp] theorem under_valid (step : Place) (a : α) : (Checked.valid a).under step = .valid a := rfl

theorem map_eq_valid {f : α → β} {x : Checked α} {b : β} :
    f <$> x = .valid b ↔ ∃ a, x = .valid a ∧ f a = b := by
  cases x with
  | valid a => simp
  | faulty faults =>
    have hfaulty : f <$> Checked.faulty faults = .faulty faults := rfl
    simp [hfaulty]

theorem seq_eq_valid {f : Checked (α → β)} {x : Checked α} {b : β} :
    f <*> x = .valid b ↔ ∃ g a, f = .valid g ∧ x = .valid a ∧ g a = b := by
  cases f with
  | valid g =>
    cases x with
    | valid a => simp
    | faulty faults =>
      have hfaulty : Checked.valid g <*> Checked.faulty faults = .faulty faults := rfl
      simp [hfaulty]
  | faulty first =>
    constructor
    · intro h
      cases x <;> cases h
    · rintro ⟨g, a, h, _⟩
      cases h

theorem under_eq_valid {step : Place} {x : Checked α} {a : α} :
    x.under step = .valid a ↔ x = .valid a := by
  cases x <;> simp [under]

def toExcept : Checked α → Except (List Fault) α
  | .valid a => .ok a
  | .faulty faults => .error faults

theorem toExcept_eq_ok {x : Checked α} {a : α} : x.toExcept = .ok a ↔ x = .valid a := by
  cases x <;> simp [toExcept]

theorem ofExcept_eq_valid {x : Except FaultKind α} {a : α} :
    ofExcept x = .valid a ↔ x = .ok a := by
  cases x <;> simp [ofExcept]

@[simp] theorem faults_valid (a : α) : (Checked.valid a).faults = [] := rfl

@[simp] theorem faults_faulty (found : List Fault) :
    (Checked.faulty found : Checked α).faults = found := rfl

@[simp] theorem faults_map (f : α → β) (x : Checked α) : (f <$> x).faults = x.faults := by
  cases x <;> rfl

@[simp] theorem faults_seq (f : Checked (α → β)) (x : Checked α) :
    (f <*> x).faults = f.faults ++ x.faults := by
  cases f with
  | valid g => cases x <;> rfl
  | faulty first =>
    cases x with
    | valid a => exact (List.append_nil first).symm
    | faulty second => rfl

theorem mem_faults_under {step : Place} {x : Checked α} {fault : Fault} :
    fault ∈ (x.under step).faults ↔
      ∃ inner ∈ x.faults, { inner with place := step :: inner.place } = fault := by
  cases x <;> simp [under]

def Decides (x : Checked α) : Prop := x.faults = [] → ∃ a, x = .valid a

theorem decides_ofExcept (x : Except FaultKind α) : (ofExcept x).Decides := by
  intro h
  cases x with
  | ok a => exact ⟨a, rfl⟩
  | error kind => cases h

theorem Decides.map {x : Checked α} (hx : x.Decides) (f : α → β) : (f <$> x).Decides := by
  intro h
  rw [faults_map] at h
  obtain ⟨a, rfl⟩ := hx h
  exact ⟨f a, rfl⟩

theorem Decides.seq {f : Checked (α → β)} {x : Checked α} (hf : f.Decides) (hx : x.Decides) :
    (f <*> x).Decides := by
  intro h
  rw [faults_seq, List.append_eq_nil_iff] at h
  obtain ⟨g, rfl⟩ := hf h.1
  obtain ⟨a, rfl⟩ := hx h.2
  exact ⟨g a, rfl⟩

theorem Decides.under {x : Checked α} (hx : x.Decides) (step : Place) : (x.under step).Decides := by
  intro h
  cases x with
  | valid a => exact ⟨a, rfl⟩
  | faulty found =>
    obtain ⟨a, ha⟩ := hx (List.map_eq_nil_iff.1 h)
    cases ha

theorem decides_list {check : α → Checked β} (hcheck : ∀ a, (check a).Decides) (n : Nat)
    (l : List α) : (list check n l).Decides := by
  induction l generalizing n with
  | nil => exact fun _ => ⟨[], rfl⟩
  | cons a l ih => exact (((hcheck a).under _).map _).seq (ih (n + 1))

theorem Decides.faults_ne_nil_iff {x : Checked α} (hx : x.Decides) :
    x.faults ≠ [] ↔ ∀ a, x ≠ .valid a := by
  constructor
  · rintro h a rfl
    exact h rfl
  · intro h hnil
    obtain ⟨a, ha⟩ := hx hnil
    exact h a ha

end EndpointManifest.Checked
