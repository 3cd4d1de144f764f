import EndpointManifest.Options.Value
import EndpointManifest.Proofs.Options.Scan
import EndpointManifest.Proofs.Text.Words

/-! The value of a name in an object literal is that of the first entry with the name. A block in
that place is taken whole. -/

namespace EndpointManifest

open Text

def Entry.isNamed (names : List Text) (e : Entry) : Bool :=
  (names.map lower).contains (lower e.key.name)

theorem find?_zip {α β : Type} {r : α → β → Prop} {p : α → Bool} {q : β → Bool}
    (hpq : ∀ a b, r a b → p a = q b) {l : List α} {l' : List β} (h : List.Forall₂ r l l') :
    l.find? p = ((l.zip l').find? fun pair => q pair.2).map (·.1) ∧
      l'.find? q = ((l.zip l').find? fun pair => q pair.2).map (·.2) := by
  induction h with
  | nil => exact ⟨rfl, rfl⟩
  | @cons a b l l' hab _ ih =>
    have hp := hpq a b hab
    rw [List.zip_cons_cons, List.find?_cons, List.find?_cons, List.find?_cons, hp]
    cases q b with
    | true => exact ⟨rfl, rfl⟩
    | false => exact ih

namespace Options

section

variable {o : Literal} {names : List Text} {e : Entry}

def firstNamed? (o : Literal) (names : List Text) : Option (Key × Entry) :=
  (o.keys.zip o.entries).find? fun pair => pair.2.isNamed names

theorem find?_keys (o : Literal) (names : List Text) :
    (o.keys.find? fun key => (names.map lower).contains (lower key.name)) =
        (firstNamed? o names).map (·.1) ∧
      o.entries.find? (Entry.isNamed names) = (firstNamed? o names).map (·.2) := by
  refine find?_zip (fun key e h => ?_) (Key.isAt_keys o)
  rw [Entry.isNamed, h.1]

theorem valueStart?_render (hplain : ∀ e ∈ o.entries, e.key.IsPlain) (names : List Text) :
    valueStart? o.render names = (firstNamed? o names).map (·.1.valueStart) := by
  show ((Key.scan o.render).find? fun key => _).map _ = _
  rw [Key.scan_render hplain, (find?_keys o names).1, Option.map_map]
  rfl

structure Marks (t : Text) (key : Key) (e : Entry) : Prop where
  name : key.name = e.key.name
  entry : e.text <+: t.drop key.start
  value : ∃ back, t.drop key.valueStart = e.value ++ back ∧ Literal.Closes back

theorem marks_of_isAt {t : Text} {key : Key} (h : key.IsAt t e) : Marks t key e := by
  obtain ⟨hname, front, back, rfl, hback, hstart, hvalue⟩ := h
  refine ⟨hname, ?_, back, ?_, hback⟩
  · rw [hstart, List.drop_left]
    exact List.prefix_append e.text back
  · have hhead : key.valueStart =
        (front ++ (e.key.text ++ (e.beforeColon.text ++ ':' :: e.afterColon.text))).length := by
      simp only [Entry.text, List.length_append, List.length_cons] at hvalue ⊢
      omega
    have hsplit : front ++ (e.text ++ back) =
        (front ++ (e.key.text ++ (e.beforeColon.text ++ ':' :: e.afterColon.text))) ++
          (e.value ++ back) := by
      rw [Entry.text]
      simp
    rw [hhead, hsplit, List.drop_left]

theorem marks_keys (o : Literal) : List.Forall₂ (Marks o.render) o.keys o.entries :=
  (Key.isAt_keys o).imp fun _ _ => marks_of_isAt

/-- The scan of an object literal gives the keys of its entries, each once and in order, each from
its first character to the first one of its value. So the value of a name is that of the first entry
with the name, and there is none where no entry has it. -/
theorem scan_literal (o : Literal) (hplain : ∀ e ∈ o.entries, e.key.IsPlain) :
    Key.scan o.render = o.keys ∧ List.Forall₂ (Marks o.render) o.keys o.entries ∧
      ∀ names, valueStart? o.render names =
        ((o.keys.zip o.entries).find? fun pair => pair.2.isNamed names).map (·.1.valueStart) :=
  ⟨Key.scan_render hplain, marks_keys o, valueStart?_render hplain⟩

/-- A key in quotes, a string with a key and a brace in it, a call and a nested object. -/
theorem scan_literal_nested :
    let blank : Gap := ⟨[' '], allBlank_space⟩
    let empty : Gap := ⟨[], allBlank_nil⟩
    let header : Entry := ⟨blank, .quoted '"' "x-body".toList, blank, blank,
      "'a, data: \x7b'".toList, empty, ⟨.inr rfl, by decide⟩, .literal (by decide)⟩
    let payload : Entry := ⟨blank, .bare "Data".toList, empty, blank,
      "f.g (\x7b body: ['\x7d'] \x7d)".toList, blank, ⟨'D', _, rfl, by decide, by decide⟩,
      @IsValue.call 'f' ".g".toList "\x7b body: ['\x7d'] \x7d)".toList blank
        (by decide) (by decide) (by decide)⟩
    let o : Literal := ⟨[header, payload], true, blank, by simp⟩
    o.render = "\x7b \"x-body\" : 'a, data: \x7b', Data: f.g (\x7b body: ['\x7d'] \x7d) , \x7d".toList ∧
      (∀ e ∈ o.entries, e.key.IsPlain) ∧
      Key.scan o.render = [⟨"x-body".toList, 2, 13⟩, ⟨"Data".toList, 27, 33⟩] ∧
      valueStart? o.render ["data".toList, "body".toList] = some 33 := by
  intro blank empty header payload o
  have hplain : ∀ e ∈ o.entries, e.key.IsPlain := by
    intro e he
    rcases List.mem_cons.1 he with rfl | he
    · exact ⟨by decide, by decide⟩
    · obtain rfl := List.mem_singleton.1 he
      trivial
  obtain ⟨hscan, _, hvalue⟩ := scan_literal o hplain
  exact ⟨by decide, hplain, hscan.trans (by decide), (hvalue _).trans (by decide)⟩

theorem valueStart?_eq_none (hplain : ∀ e ∈ o.entries, e.key.IsPlain)
    (h : o.entries.find? (Entry.isNamed names) = none) : valueStart? o.render names = none := by
  rw [(find?_keys o names).2, Option.map_eq_none_iff] at h
  rw [valueStart?_render hplain, h]
  rfl

/-- The value stands where the name says, and what closes its entry follows. -/
theorem exists_valueStart? (hplain : ∀ e ∈ o.entries, e.key.IsPlain)
    (h : o.entries.find? (Entry.isNamed names) = some e) :
    ∃ start back, valueStart? o.render names = some start ∧
      o.render.drop start = e.value ++ back ∧ Literal.Closes back := by
  rw [(find?_keys o names).2] at h
  obtain ⟨⟨key, e'⟩, hfirst, rfl⟩ := Option.map_eq_some_iff.1 h
  obtain ⟨back, hdrop, hback⟩ :=
    (List.forall₂_zip (marks_keys o) (List.mem_of_find?_eq_some hfirst)).value
  refine ⟨key.valueStart, back, ?_, hdrop, hback⟩
  rw [valueStart?_render hplain, hfirst]
  rfl

theorem headersBlock_eq (hplain : ∀ e ∈ o.entries, e.key.IsPlain)
    (h : o.entries.find? (Entry.isNamed ["headers".toList]) = some e) {inside : Text}
    (hvalue : e.value = '{' :: (inside ++ ['}'])) (hin : Delimiter.Balanced '{' '}' inside) :
    headersBlock o.render = e.value := by
  obtain ⟨start, back, hstart, hdrop, _⟩ := exists_valueStart? hplain h
  have hopen : startsWith ['{'] (e.value ++ back) = true := by
    rw [hvalue]
    rfl
  have hend := Delimiter.blockEnd?_append (v := back) (Delimiter.blockEnd?_closed rfl hin [])
  rw [← hvalue] at hend
  have hlen : inside.length + 1 + 1 = e.value.length := by
    rw [hvalue]
    simp
  unfold headersBlock
  simp only [hstart, hdrop, hopen, if_true, hend, hlen, List.take_left]

theorem headersBlock_eq_nil (hplain : ∀ e ∈ o.entries, e.key.IsPlain)
    (h : o.entries.find? (Entry.isNamed ["headers".toList]) = none) :
    headersBlock o.render = [] := by
  unfold headersBlock
  rw [valueStart?_eq_none hplain h]

end

end Options
end EndpointManifest
