import Mathlib.Data.List.Induction
import ServiceControl.Bundled.Whitelist

/-!
# The list in force is that of the last usable document

A round of refreshing asks the provider once. A document is usable if it came with a status of
success, could be read and has at least one usable network. Whatever the provider answers, the
whitelist in force is that of the last usable document, and its digest is remembered; all else the
provider answers changes nothing. A document with the remembered digest is not read again, which
makes no difference as long as different documents have different digests.
-/

namespace ServiceControl.Whitelist

/-- Whether a document has at least one usable network. -/
def isUsable (document : ByteArray) : Bool :=
  match parseList? document with
  | some (_ :: _) => true
  | _ => false

/-- The document that an answer brings, if its status is one of success. -/
def Answer.document? : Answer → Option ByteArray
  | .unreachable => none
  | .response status body => if 200 ≤ status ∧ status < 300 then some body else none

/-- The usable document that an answer brings. -/
def Answer.usable? (a : Answer) : Option ByteArray := a.document?.filter isUsable

/-- The last usable document among answers. -/
def lastUsable? (answers : List Answer) : Option ByteArray :=
  (answers.filterMap Answer.usable?).getLast?

/-- Different documents that answers bring have different digests. -/
def HaveOwnDigests (answers : List Answer) : Prop :=
  ∀ a ∈ answers.filterMap Answer.document?, ∀ b ∈ answers.filterMap Answer.document?,
    Sha1.hex a = Sha1.hex b → a = b

instance (answers : List Answer) : Decidable (HaveOwnDigests answers) :=
  inferInstanceAs (Decidable (∀ _ ∈ _, ∀ _ ∈ _, _ → _))

/-- A usable document is one that the answer brings. -/
theorem Answer.usable?_eq_some_iff {a : Answer} {document : ByteArray} :
    a.usable? = some document ↔ a.document? = some document ∧ isUsable document = true :=
  Option.filter_eq_some_iff

/-- An answer that brings nothing usable leaves the last usable document the last one. -/
theorem lastUsable?_snoc (answers : List Answer) (a : Answer) :
    lastUsable? (answers ++ [a]) = a.usable?.or (lastUsable? answers) := by
  rw [lastUsable?, List.filterMap_append, List.getLast?_append]
  cases h : a.usable? with
  | none => rw [List.filterMap_cons_none h]; rfl
  | some document => rw [List.filterMap_cons_some h]; rfl

/-- The last usable document is usable, and one of the documents that came. -/
theorem mem_of_lastUsable? {answers : List Answer} {document : ByteArray}
    (h : lastUsable? answers = some document) :
    document ∈ answers.filterMap Answer.document? ∧ isUsable document = true := by
  obtain ⟨a, ha, husable⟩ := List.mem_filterMap.mp (List.mem_of_getLast? h)
  obtain ⟨hdocument, husable⟩ := Answer.usable?_eq_some_iff.mp husable
  exact ⟨List.mem_filterMap.mpr ⟨a, ha, hdocument⟩, husable⟩

/-- The documents of a run have digests of their own before its last round. -/
theorem HaveOwnDigests.of_snoc {answers : List Answer} {a : Answer}
    (h : HaveOwnDigests (answers ++ [a])) : HaveOwnDigests answers := by
  have hsub : ∀ b ∈ answers.filterMap Answer.document?,
      b ∈ (answers ++ [a]).filterMap Answer.document? := fun b hb => by
    rw [List.filterMap_append]
    exact List.mem_append_left _ hb
  exact fun b hb c hc => h b (hsub b hb) c (hsub c hc)

namespace State

/-- The state in which the list of a document is in force, or at first none. -/
def ofDocument (document? : Option ByteArray) : State where
  networks := (document?.bind parseList?).getD []
  digest := document?.map Sha1.hex

/-- The state after rounds of refreshing from the start. -/
def after (answers : List Answer) : State := answers.foldl (fun s a => (s.refresh a).2) {}

/-- The state after rounds in which no digest is remembered, so that every document is read. -/
def afterReadingAll (answers : List Answer) : State :=
  answers.foldl (fun s a => ({ s with digest := none }.refresh a).2) {}

theorem after_snoc (answers : List Answer) (a : Answer) :
    after (answers ++ [a]) = ((after answers).refresh a).2 := by
  rw [after, List.foldl_append]
  rfl

theorem afterReadingAll_snoc (answers : List Answer) (a : Answer) :
    afterReadingAll (answers ++ [a]) =
      ({ afterReadingAll answers with digest := none }.refresh a).2 := by
  rw [afterReadingAll, List.foldl_append]
  rfl

/-- What one round does: a document with the remembered digest is left alone, another one is taken
over if it is usable, and in all other cases the round fails and changes nothing. -/
theorem refresh_cases (s : State) (a : Answer) :
    (∃ b, a.document? = some b ∧ s.digest = some (Sha1.hex b) ∧ s.refresh a = (.unchanged, s)) ∨
    (∃ b, a.usable? = some b ∧
      s.refresh a = (.applied (ofDocument (some b)).networks.length, ofDocument (some b))) ∨
    (a.usable? = none ∧ s.refresh a = (.failed, s)) := by
  cases a with
  | unreachable => exact .inr (.inr ⟨rfl, rfl⟩)
  | response status body =>
    by_cases hstatus : status < 200 ∨ 300 ≤ status
    · have hnone : (Answer.response status body).document? = none := if_neg (by omega)
      refine .inr (.inr ⟨?_, if_pos hstatus⟩)
      rw [Answer.usable?, hnone]
      rfl
    · have hsome : (Answer.response status body).document? = some body := if_pos (by omega)
      by_cases hdigest : s.digest = some (Sha1.hex body)
      · refine .inl ⟨body, hsome, hdigest, ?_⟩
        rw [refresh, if_neg hstatus, if_pos hdigest]
      · right
        rw [Answer.usable?, hsome, Option.filter_some, isUsable, refresh, if_neg hstatus,
          if_neg hdigest]
        match hparse : parseList? body with
        | some (n :: networks) =>
          refine .inl ⟨body, rfl, ?_⟩
          rw [ofDocument, Option.bind_some, hparse]
          rfl
        | some [] | none => exact .inr ⟨rfl, rfl⟩

/-- A round that fails changes nothing. -/
theorem refresh_of_failed {s : State} {a : Answer} (h : (s.refresh a).1 = .failed) :
    (s.refresh a).2 = s := by
  rcases s.refresh_cases a with ⟨b, -, -, hround⟩ | ⟨b, -, hround⟩ | ⟨-, hround⟩
  · rw [hround]
  · rw [hround] at h
    cases h
  · rw [hround]

/-- A usable document has a network. -/
theorem networks_ofDocument_ne_nil {document : ByteArray} (h : isUsable document = true) :
    (ofDocument (some document)).networks ≠ [] := by
  rw [isUsable] at h
  rw [ofDocument, Option.bind_some]
  split at h
  · next hparse =>
    rw [hparse]
    exact List.cons_ne_nil _ _
  · cases h

/-- A round never empties a list. -/
theorem networks_refresh_ne_nil {s : State} (h : s.networks ≠ []) (a : Answer) :
    (s.refresh a).2.networks ≠ [] := by
  rcases s.refresh_cases a with ⟨b, -, -, hround⟩ | ⟨b, husable, hround⟩ | ⟨-, hround⟩
  · rwa [hround]
  · rw [hround]
    exact networks_ofDocument_ne_nil (Answer.usable?_eq_some_iff.mp husable).2
  · rwa [hround]

/-- Nor do any number of rounds. -/
theorem networks_foldl_ne_nil {s : State} (h : s.networks ≠ []) (answers : List Answer) :
    (answers.foldl (fun s a => (s.refresh a).2) s).networks ≠ [] := by
  induction answers generalizing s with
  | nil => exact h
  | cons a rest ih => exact ih (networks_refresh_ne_nil h a)

/-- Where documents have digests of their own, one with the remembered digest is the last usable one
again. -/
theorem eq_lastUsable?_of_digest {answers : List Answer} {a : Answer} {document : ByteArray}
    (howned : HaveOwnDigests (answers ++ [a])) (hdocument : a.document? = some document)
    (hdigest : (ofDocument (lastUsable? answers)).digest = some (Sha1.hex document)) :
    lastUsable? answers = some document ∧ a.usable? = some document := by
  obtain ⟨last, hlast, hsame⟩ := Option.map_eq_some_iff.mp hdigest
  obtain ⟨hmem, husable⟩ := mem_of_lastUsable? hlast
  have hnew : document ∈ [a].filterMap Answer.document? :=
    List.mem_filterMap.mpr ⟨a, List.mem_singleton_self a, hdocument⟩
  have heq : last = document := by
    refine howned last ?_ document ?_ hsame <;> rw [List.filterMap_append]
    · exact List.mem_append_left _ hmem
    · exact List.mem_append_right _ hnew
  subst heq
  exact ⟨hlast, Answer.usable?_eq_some_iff.mpr ⟨hdocument, husable⟩⟩

/-- A round takes the state of the last usable document to that of the next one. -/
theorem refresh_ofDocument {answers : List Answer} {a : Answer}
    (howned : HaveOwnDigests (answers ++ [a])) :
    ((ofDocument (lastUsable? answers)).refresh a).2 =
      ofDocument (lastUsable? (answers ++ [a])) := by
  rw [lastUsable?_snoc]
  rcases (ofDocument (lastUsable? answers)).refresh_cases a with
    ⟨b, hdocument, hdigest, hround⟩ | ⟨b, husable, hround⟩ | ⟨hnone, hround⟩
  · obtain ⟨hlast, husable⟩ := eq_lastUsable?_of_digest howned hdocument hdigest
    rw [hround, hlast, husable]
    rfl
  · rw [hround, husable]
    rfl
  · rw [hround, hnone]
    rfl

/-- The state after a run is that of the last usable document. -/
theorem after_eq {answers : List Answer} (howned : HaveOwnDigests answers) :
    after answers = ofDocument (lastUsable? answers) := by
  induction answers using List.reverseRecOn with
  | nil => rfl
  | append_singleton answers a ih => rw [after_snoc, ih howned.of_snoc, refresh_ofDocument howned]

/-- Rounds that read every document have the list of the last usable one, whatever the digests. -/
theorem networks_afterReadingAll (answers : List Answer) :
    (afterReadingAll answers).networks = (ofDocument (lastUsable? answers)).networks := by
  induction answers using List.reverseRecOn with
  | nil => rfl
  | append_singleton answers a ih =>
    rw [afterReadingAll_snoc, lastUsable?_snoc]
    rcases ({ afterReadingAll answers with digest := none } : State).refresh_cases a with
      ⟨b, -, hdigest, -⟩ | ⟨b, husable, hround⟩ | ⟨hnone, hround⟩
    · cases hdigest
    · rw [hround, husable]
      rfl
    · rw [hround, hnone]
      exact ih

/-- Where documents have digests of their own, exactly the rounds fail that bring nothing usable. -/
theorem refresh_failed_iff {answers : List Answer} {a : Answer}
    (howned : HaveOwnDigests (answers ++ [a])) :
    ((after answers).refresh a).1 = .failed ↔ a.usable? = none := by
  rw [after_eq howned.of_snoc]
  rcases (ofDocument (lastUsable? answers)).refresh_cases a with
    ⟨b, hdocument, hdigest, hround⟩ | ⟨b, husable, hround⟩ | ⟨hnone, hround⟩
  · rw [hround, (eq_lastUsable?_of_digest howned hdocument hdigest).2]
    exact ⟨nofun, nofun⟩
  · rw [hround, husable]
    exact ⟨nofun, nofun⟩
  · exact ⟨fun _ => hnone, fun _ => congrArg Prod.fst hround⟩

end State

/-- The caller's address can be read and is in a network of a list. -/
def Admits (networks : List Net.Network) (request : CheckRequest) : Prop :=
  ∃ ip a n, request.callerIp = some ip ∧ Net.Address.parse? ip = some a ∧ n ∈ networks ∧
    n.contains a = true

/-- A text is listed if it is an address in a network of the list. -/
theorem isListed_iff {networks : List Net.Network} {ip : String} :
    isListed networks ip = true ↔
      ∃ a n, Net.Address.parse? ip = some a ∧ n ∈ networks ∧ n.contains a = true := by
  cases h : Net.Address.parse? ip with
  | none => simp [isListed, h]
  | some a => simp [isListed, h]

/-- The three verdicts of a list: a call is admitted, it is blocked with its caller known, or
it has no caller. -/
theorem verdict_iff (networks : List Net.Network) (request : CheckRequest) :
    (verdict networks request = .ok none ↔ Admits networks request) ∧
    (verdict networks request = .ok (some ⟨.ipAddressBlocked, blockedMessage⟩) ↔
      request.callerIp ≠ none ∧ ¬Admits networks request) ∧
    ((∃ e, verdict networks request = .error e) ↔ request.callerIp = none) := by
  rw [verdict]
  cases hip : request.callerIp with
  | none => simp [Admits, hip]
  | some ip =>
    have hadmits : Admits networks request ↔ isListed networks ip = true := by
      rw [isListed_iff, Admits, hip]
      simp only [Option.some.injEq, exists_and_left, exists_eq_left']
    rw [hadmits]
    cases h : isListed networks ip <;> simp [h]

namespace State

/-- From an empty list and whatever the provider answers in a run, as long as different documents
of the run have different digests: the list in force and the remembered digest are those of the
last usable document, and with no digest ever remembered the list would be the same. In the round
that comes next only an answer without a usable document fails, and then list and digest stay as
they are; a list with networks keeps having some. A check is admitted if the caller's address is
in a network of the list in force, it is blocked for any other caller, and it fails only if the
caller is unknown. -/
theorem last_usable_in_force (answers : List Answer) (howned : HaveOwnDigests answers) :
    let s := after answers
    (s.networks = ((lastUsable? answers).bind parseList?).getD [] ∧
      s.digest = (lastUsable? answers).map Sha1.hex) ∧
    s.networks = (afterReadingAll answers).networks ∧
    (∀ a, (s.refresh a).1 = .failed → (s.refresh a).2 = s) ∧
    (∀ a, HaveOwnDigests (answers ++ [a]) → ((s.refresh a).1 = .failed ↔ a.usable? = none)) ∧
    (s.networks ≠ [] → ∀ later, (after (answers ++ later)).networks ≠ []) ∧
    ∀ request,
      ((checker s.networks).check request = .ok none ↔ Admits s.networks request) ∧
      ((checker s.networks).check request = .ok (some ⟨.ipAddressBlocked, blockedMessage⟩) ↔
        request.callerIp ≠ none ∧ ¬Admits s.networks request) ∧
      ((∃ e, (checker s.networks).check request = .error e) ↔ request.callerIp = none) := by
  intro s
  have hs : s = ofDocument (lastUsable? answers) := after_eq howned
  refine ⟨⟨congrArg networks hs, congrArg digest hs⟩, ?_, fun a => refresh_of_failed,
    fun a => refresh_failed_iff, ?_, verdict_iff s.networks⟩
  · rw [hs, networks_afterReadingAll]
  · intro h later
    rw [after, List.foldl_append]
    exact networks_foldl_ne_nil h later

/-- A provider whose list is good, then broken, empty and gone, and then as it was at first. -/
def shakyAnswers : List Answer :=
  let good := "whitelist:\n- 10.0.0.0/8\n- bogus\n".toUTF8
  [.response 200 good, .response 200 "whitelist: 5".toUTF8, .response 200 "whitelist: []".toUTF8,
    .response 503 "whitelist: [0.0.0.0/0]".toUTF8, .unreachable, .response 203 good]

/-- All the while the first list is in force. -/
theorem last_usable_in_force_shaky :
    HaveOwnDigests shakyAnswers ∧
    (after shakyAnswers).networks = [⟨.v4 0x0a000000, 8, by decide⟩] ∧
    (afterReadingAll shakyAnswers).networks = [⟨.v4 0x0a000000, 8, by decide⟩] ∧
    ((after shakyAnswers).refresh (.response 200 "".toUTF8)).2 = after shakyAnswers := by
  have howned : HaveOwnDigests shakyAnswers := by
    decide +kernel
  obtain ⟨⟨hnetworks, -⟩, hall, hfailed, -⟩ := last_usable_in_force shakyAnswers howned
  have hlast : ((lastUsable? shakyAnswers).bind parseList?).getD [] =
      [⟨.v4 0x0a000000, 8, by decide⟩] := by
    decide +kernel
  exact ⟨howned, hnetworks.trans hlast, hall.symm.trans (hnetworks.trans hlast),
    hfailed _ (by decide +kernel)⟩

end State

end ServiceControl.Whitelist
