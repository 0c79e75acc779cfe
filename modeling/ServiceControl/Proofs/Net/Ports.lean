import Mathlib.Data.List.TakeWhile
import ServiceControl.Net.Endpoint

/-!
# The port of an endpoint

An endpoint ends with its port, and the last colon of its text stands in front of it: digits have no
colons, and neither the point-separated form of an address nor a closing bracket lets a reader look
beyond itself. So what stands in front of the last colon is read alike whatever port follows, and
another port behind that colon gives an endpoint with the same address and the same scope.
-/

namespace ServiceControl.Net

/-! ### Readers that stop at a character -/

/-- A reader that cannot read a character. It leaves an end of what it is given, and what follows
the character makes no difference to it. -/
structure StopsAt {α : Type} (x : Char) (read : List Char → Option (α × List Char)) : Prop where
  suffix {cs r : List Char} {a : α} : read cs = some (a, r) → r <:+ cs
  append (cs r : List Char) : read (cs ++ x :: r) = (read cs).map fun p => (p.1, p.2 ++ x :: r)

namespace StopsAt

variable {α β : Type} {x : Char} {f g : List Char → Option (α × List Char)}

/-- Where a reader stopped at the character, it read what stands in front, and reads it alike
whatever follows. -/
theorem exists_of_eq (hf : StopsAt x f) {cs r : List Char} {a : α} (h : f cs = some (a, x :: r)) :
    ∃ front, cs = front ++ x :: r ∧ ∀ r', f (front ++ x :: r') = some (a, x :: r') := by
  obtain ⟨front, rfl⟩ := hf.suffix h
  rw [hf.append, Option.map_eq_some_iff] at h
  obtain ⟨⟨a', left⟩, hfront, heq⟩ := h
  obtain ⟨rfl, hleft⟩ := Prod.mk.inj heq
  obtain rfl := List.append_left_eq_self.mp hleft
  exact ⟨front, rfl, fun r' => by rw [hf.append, hfront]; rfl⟩

/-- Nothing more is read. -/
theorem done (a : α) : StopsAt x fun cs => some (a, cs) where
  suffix h := by
    obtain ⟨-, rfl⟩ := Prod.mk.inj (Option.some.inj h)
    exact List.suffix_rfl
  append _ _ := rfl

/-- Nothing can be read. -/
theorem fails : StopsAt x fun _ => (none : Option (α × List Char)) where
  suffix h := by cases h
  append _ _ := rfl

/-- A reader goes on with what another one left. -/
theorem bind (hf : StopsAt x f) {g : α → List Char → Option (β × List Char)}
    (hg : ∀ a, StopsAt x (g a)) : StopsAt x fun cs => (f cs).bind fun p => g p.1 p.2 where
  suffix h := by
    obtain ⟨⟨a, left⟩, hleft, hr⟩ := Option.bind_eq_some_iff.mp h
    exact ((hg a).suffix hr).trans (hf.suffix hleft)
  append cs r := by
    rw [hf.append]
    cases f cs with
    | none => rfl
    | some p => exact (hg p.1).append p.2 r

/-- A reader takes the place of another one that fails. -/
theorem or (hf : StopsAt x f) (hg : StopsAt x g) : StopsAt x fun cs => (f cs).or (g cs) where
  suffix h := by
    rcases Option.or_eq_some_iff.mp h with h | ⟨-, h⟩
    · exact hf.suffix h
    · exact hg.suffix h
  append cs r := by rw [hf.append, hg.append, Option.map_or]

/-- One of two readers reads, whatever is to be read. -/
theorem either (c : Prop) [Decidable c] (hf : StopsAt x f) (hg : StopsAt x g) :
    StopsAt x fun cs => if c then f cs else g cs := by
  split
  · exact hf
  · exact hg

/-- A reader starts behind another character. -/
theorem behind {y : Char} (hy : x ≠ y) (hg : StopsAt x g) :
    StopsAt x fun cs => (char? y cs).bind g where
  suffix {cs r a} h := by
    cases cs with
    | nil => cases h
    | cons c cs =>
      simp only [char?] at h
      split at h
      · exact (hg.suffix h).trans (List.suffix_cons c cs)
      · cases h
  append cs r := by
    cases cs with
    | nil => simp [char?, hy]
    | cons c cs =>
      simp only [List.cons_append, char?]
      split
      · exact hg.append cs r
      · rfl

/-- Numbers end at what is no digit. -/
theorem number {base : Nat} (hx : Text.digitIn? base x = none) (maxDigits : Option Nat)
    (padded : Bool) (maximum : Nat) : StopsAt x (number? base maxDigits padded maximum) where
  suffix {cs r n} h := by
    simp only [number?] at h
    split at h
    · cases h
    · split at h
      · split at h
        · obtain ⟨-, rfl⟩ := Prod.mk.inj (Option.some.inj h)
          exact List.drop_suffix _ _
        · cases h
      · cases h
  append cs r := by
    have hdigits : (cs ++ x :: r).takeWhile (fun c => (Text.digitIn? base c).isSome) =
        cs.takeWhile fun c => (Text.digitIn? base c).isSome := by
      induction cs with
      | nil => simp [hx]
      | cons c cs ih => rw [List.cons_append, List.takeWhile_cons, List.takeWhile_cons, ih]
    have hshort : (cs.takeWhile fun c => (Text.digitIn? base c).isSome).length ≤ cs.length :=
      (List.takeWhile_prefix _).length_le
    simp only [number?, hdigits, List.drop_append_of_le_length hshort]
    split
    · rfl
    · split
      · split <;> rfl
      · rfl

/-- Four decimal numbers end at what is neither a digit nor a point. -/
theorem v4 (hx : Text.digitIn? 10 x = none) (hpoint : x ≠ '.') : StopsAt x v4? := by
  have hoctet : StopsAt x octet? := number hx _ _ _
  have hlast (a b c : Nat) := hoctet.bind fun d =>
    done (x := x) (BitVec.ofNat 32 (((a * 256 + b) * 256 + c) * 256 + d))
  exact hoctet.bind fun a => (hoctet.bind fun b => (hoctet.bind fun c =>
    (hlast a b c).behind hpoint).behind hpoint).behind hpoint

section

variable (hx : Text.digitIn? 16 x = none) (hten : Text.digitIn? 10 x = none) (hcolon : x ≠ ':')
  (hpoint : x ≠ '.')

include hcolon in
/-- A group starts behind a colon, but for the first one. -/
theorem separated (first : Bool) (hg : StopsAt x g) :
    StopsAt x fun cs => (separator? first cs).bind g := by
  cases first with
  | true => exact hg
  | false => exact hg.behind hcolon

include hx hten hcolon hpoint

/-- Groups end at what belongs to no group; their reader never fails. -/
theorem run (first : Bool) (room : Nat) : StopsAt x fun cs =>
    some (((groups first room cs).1, (groups first room cs).2.1), (groups first room cs).2.2) := by
  induction room generalizing first with
  | zero => exact done ([], false)
  | succ room ih =>
    have hembedded := either (0 < room) (separated hcolon first (v4 hten hpoint)) fails
    have hgroup := separated hcolon first (number hx (some 4) true 65535)
    have hsteps := ((hembedded.bind fun a => done ([a.toNat / 65536, a.toNat % 65536], true)).or
      (hgroup.bind fun n => (ih false).bind fun more => done (n :: more.1, more.2))).or
      (done ([], false))
    refine Eq.mp (congrArg _ (funext fun cs => ?_)) hsteps
    simp only [groups]
    cases (if 0 < room then (separator? first cs).bind v4? else none) with
    | some p => rfl
    | none =>
      cases (separator? first cs).bind (number? 16 (some 4) true 65535) with
      | some p => rfl
      | none => rfl

/-- Eight groups end at what belongs to no group. -/
theorem v6 : StopsAt x v6? := by
  have hrun := run hx hten hcolon hpoint true
  have htail (head : List Nat) := (((hrun (7 - head.length)).bind fun tail =>
    done (ofGroups (head ++ List.replicate (8 - head.length - tail.1.length) 0 ++ tail.1))).behind
      hcolon).behind hcolon
  exact (hrun 8).bind fun head => either (head.1.length = 8) (done (ofGroups head.1))
    (either (head.2 = true) fails (htail head.1))

end

/-- Without a percent sign there is no scope. -/
theorem scope?_of_ne {c : Char} {cs : List Char} (hc : c ≠ '%') :
    scope? (c :: cs) = some (0, c :: cs) := by
  unfold scope?
  split
  · next h => exact absurd (List.cons.inj h).1 hc
  · rfl

/-- The number of a scope ends at what is neither a digit nor a percent sign. -/
theorem scope (hx : Text.digitIn? 10 x = none) (hpercent : x ≠ '%') : StopsAt x scope? := by
  have hnumber := number hx none true (2 ^ 32 - 1)
  constructor
  · intro cs r n h
    cases cs with
    | nil =>
      obtain ⟨-, rfl⟩ := Prod.mk.inj (Option.some.inj h)
      exact List.suffix_rfl
    | cons c cs =>
      by_cases hc : c = '%'
      · subst hc
        exact (hnumber.suffix h).trans (List.suffix_cons _ cs)
      · rw [scope?_of_ne hc] at h
        obtain ⟨-, rfl⟩ := Prod.mk.inj (Option.some.inj h)
        exact List.suffix_rfl
  · intro cs r
    cases cs with
    | nil => exact scope?_of_ne hpercent
    | cons c cs =>
      by_cases hc : c = '%'
      · subst hc
        exact hnumber.append cs r
      · rw [List.cons_append, scope?_of_ne hc, scope?_of_ne hc]
        rfl

end StopsAt

/-! ### Ports -/

/-- What is read as a number up to the end has digits only. -/
theorem notMem_of_number? {base : Nat} {maxDigits : Option Nat} {padded : Bool} {maximum n : Nat}
    {cs : List Char} {c : Char} (hc : Text.digitIn? base c = none)
    (h : number? base maxDigits padded maximum cs = some (n, [])) : c ∉ cs := by
  intro hmem
  obtain ⟨a, b, rfl⟩ := List.append_of_mem hmem
  rw [(StopsAt.number hc maxDigits padded maximum).append, Option.map_eq_some_iff] at h
  obtain ⟨p, -, heq⟩ := h
  exact absurd (Prod.mk.inj heq).2 (by simp)

/-- The digits of a port are read back. -/
theorem number?_toDigits {n : Nat} (h : n < 65536) :
    number? 10 none true 65535 (Nat.toDigits 10 n) = some (n, []) := by
  have hdigits : (Nat.toDigits 10 n).takeWhile (fun c => (Text.digitIn? 10 c).isSome) =
      Nat.toDigits 10 n := by
    refine List.takeWhile_eq_self_iff.mpr fun c hc => ?_
    rw [Text.digitIn?_of_isDigit (Nat.isDigit_of_mem_toDigits (by decide) (by decide) hc)]
    rfl
  have hmaximum : n ≤ 65535 := by omega
  simp [number?, hdigits, Text.natIn?_toDigits, hmaximum]

/-- What is behind a character starts with it. -/
theorem char?_eq_some_iff {x : Char} {cs r : List Char} : char? x cs = some r ↔ cs = x :: r := by
  cases cs with
  | nil => simp [char?]
  | cons c cs => by_cases hc : c = x <;> simp [char?, hc]

/-- What ends with a port is a colon and the port's number. -/
theorem port?_eq_some_iff {cs : List Char} {n : Nat} :
    port? cs = some (n, []) ↔
      ∃ port, cs = ':' :: port ∧ number? 10 none true 65535 port = some (n, []) := by
  simp only [port?, bind, Option.bind_eq_some_iff, char?_eq_some_iff]

/-- An endpoint of four decimal numbers has its port behind them. -/
theorem endpoint4?_eq_some_iff {cs : List Char} {e : Endpoint} :
    endpoint4? cs = some e ↔ ∃ a port, v4? cs = some (a, ':' :: port) ∧
      number? 10 none true 65535 port = some (e.port, []) ∧ e = ⟨.v4 a, 0, e.port⟩ := by
  simp only [endpoint4?, bind, Option.bind_eq_some_iff]
  constructor
  · rintro ⟨⟨a, r⟩, ha, ⟨n, rest⟩, hn, h⟩
    split at h
    · next hrest =>
      obtain rfl := List.isEmpty_iff.mp hrest
      obtain rfl := Option.some.inj h
      obtain ⟨port, rfl, hport⟩ := port?_eq_some_iff.mp hn
      exact ⟨a, port, ha, hport, rfl⟩
    · cases h
  · rintro ⟨a, port, ha, hport, he⟩
    exact ⟨_, ha, _, port?_eq_some_iff.mpr ⟨port, rfl, hport⟩, congrArg some he.symm⟩

/-- Reads an address of eight groups with its scope. -/
def scoped? (cs : List Char) : Option ((BitVec 128 × Nat) × List Char) :=
  (v6? cs).bind fun p => (scope? p.2).bind fun q => some ((p.1, q.1), q.2)

/-- An endpoint of eight groups has its port behind the brackets. -/
theorem endpoint6?_eq_some_iff {cs : List Char} {e : Endpoint} :
    endpoint6? cs = some e ↔ ∃ body a scope port, cs = '[' :: body ∧
      scoped? body = some ((a, scope), ']' :: ':' :: port) ∧
      number? 10 none true 65535 port = some (e.port, []) ∧ e = ⟨.v6 a, scope, e.port⟩ := by
  simp only [endpoint6?, scoped?, bind, Option.bind_eq_some_iff, char?_eq_some_iff]
  constructor
  · rintro ⟨body, rfl, ⟨a, r⟩, ha, ⟨scope, _⟩, hscope, behind, rfl, ⟨n, rest⟩, hn, h⟩
    split at h
    · next hrest =>
      obtain rfl := List.isEmpty_iff.mp hrest
      obtain rfl := Option.some.inj h
      obtain ⟨port, rfl, hport⟩ := port?_eq_some_iff.mp hn
      exact ⟨body, a, scope, port, rfl, ⟨_, ha, _, hscope, rfl⟩, hport, rfl⟩
    · cases h
  · rintro ⟨body, a, scope, port, rfl, ⟨p, ha, q, hscope, heq⟩, hport, he⟩
    obtain ⟨hvalue, hleft⟩ := Prod.mk.inj (Option.some.inj heq)
    obtain ⟨rfl, rfl⟩ := Prod.mk.inj hvalue
    exact ⟨body, rfl, p, ha, q, hscope, _, hleft, _, port?_eq_some_iff.mpr ⟨port, rfl, hport⟩,
      congrArg some he.symm⟩

/-- The last colon of an endpoint stands in front of its port, and any other
port may stand there. -/
theorem Endpoint.exists_host {s : String} {e : Endpoint} (h : Endpoint.parse? s = some e) :
    ∃ host port : List Char, s.toList = host ++ ':' :: port ∧ ':' ∉ port ∧
      ∀ (other : List Char) (n : Nat), number? 10 none true 65535 other = some (n, []) →
        Endpoint.parse? (String.ofList (host ++ ':' :: other)) = some { e with port := n } := by
  have hcolon : Text.digitIn? 10 ':' = none := by decide
  rcases Option.or_eq_some_iff.mp h with h | ⟨-, h⟩
  · obtain ⟨a, port, hv4, hport, he⟩ := endpoint4?_eq_some_iff.mp h
    obtain ⟨host, hs, hhost⟩ := (StopsAt.v4 hcolon (by decide)).exists_of_eq hv4
    refine ⟨host, port, hs, notMem_of_number? hcolon hport, fun other n hother => ?_⟩
    have hother : endpoint4? (host ++ ':' :: other) = some { e with port := n } :=
      endpoint4?_eq_some_iff.mpr ⟨a, other, hhost other, hother, by rw [he]⟩
    rw [Endpoint.parse?, String.toList_ofList, hother, Option.some_or]
  · obtain ⟨body, a, scope, port, hs, hscoped, hport, he⟩ := endpoint6?_eq_some_iff.mp h
    have hten : Text.digitIn? 10 ']' = none := by decide
    have hreader : StopsAt ']' scoped? :=
      (StopsAt.v6 (by decide) hten (by decide) (by decide)).bind fun a =>
        (StopsAt.scope hten (by decide)).bind fun scope => StopsAt.done (a, scope)
    obtain ⟨inside, rfl, hinside⟩ := hreader.exists_of_eq hscoped
    refine ⟨'[' :: inside ++ [']'], port, by simp [hs], notMem_of_number? hcolon hport,
      fun other n hother => ?_⟩
    have htext : '[' :: inside ++ [']'] ++ ':' :: other =
        '[' :: (inside ++ ']' :: ':' :: other) := by
      simp
    have hother : endpoint6? ('[' :: (inside ++ ']' :: ':' :: other)) = some { e with port := n } :=
      endpoint6?_eq_some_iff.mpr ⟨_, a, scope, other, rfl, hinside _, hother, by rw [he]⟩
    -- four decimal numbers do not begin with a bracket
    have hnone : endpoint4? ('[' :: (inside ++ ']' :: ':' :: other)) = none := rfl
    rw [htext, Endpoint.parse?, String.toList_ofList, hnone, Option.none_or, hother]

/-- An endpoint gets another port. -/
theorem Endpoint.parse?_withPort {s : String} {e : Endpoint} (h : Endpoint.parse? s = some e)
    {n : Nat} (hn : n < 65536) : Endpoint.parse? (withPort s n) = some { e with port := n } := by
  obtain ⟨host, port, hs, hport, hother⟩ := Endpoint.exists_host h
  have hcut : Text.cutLast? ':' s = some (String.ofList host, String.ofList port) := by
    rw [Text.cutLast?, Text.cutLastList_eq_some_iff.mpr ⟨hs, hport⟩]
    rfl
  have htext : withPort s n = String.ofList (host ++ ':' :: Nat.toDigits 10 n) := by
    have hparts : withPort s n = String.ofList host ++ ":" ++ n.repr := by
      rw [withPort, hcut]
      rfl
    simp [hparts, ← String.toList_inj]
  rw [htext]
  exact hother _ n (number?_toDigits hn)

end ServiceControl.Net
