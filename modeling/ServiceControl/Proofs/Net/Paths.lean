import Mathlib.Data.List.Induction
import Mathlib.Data.List.TakeWhile
import ServiceControl.Net.Url
import ServiceControl.Text.Bytes

/-!
# How paths end

A path ends as its last part does, and a last part is what stands in the text, in percent
notation, unless it is dots. An end of a colon with small letters has no slash, is no part of dots
and occurs in no percent notation. So a path has such an end exactly if the text has it where its
query or its fragment starts.
-/

namespace ServiceControl

namespace Text

section

variable {α : Type} {c : α} {s t a b : List α}

/-- An end without an element is an end of what follows the element. -/
theorem suffix_append_cons_iff (hc : c ∉ t) : t <:+ a ++ c :: b ↔ t <:+ b := by
  constructor
  · intro h
    rcases List.suffix_or_suffix_of_suffix h (List.suffix_append a (c :: b)) with h | h
    · rcases List.suffix_cons_iff.mp h with rfl | h
      · exact absurd List.mem_cons_self hc
      · exact h
    · exact absurd (h.subset List.mem_cons_self) hc
  · exact fun h => h.trans ((List.suffix_cons c b).trans (List.suffix_append ..))

/-- The last piece is an end of the list, and has all of its ends without the element. -/
theorem exists_splitList_eq [DecidableEq α] (c : α) (s : List α) : ∃ front last,
    splitList c s = front ++ [last] ∧ last <:+ s ∧ ∀ t, c ∉ t → (t <:+ s ↔ t <:+ last) := by
  by_cases hc : c ∈ s
  · obtain ⟨a, b, rfl, hb⟩ := exists_last_of_mem hc
    refine ⟨splitList c a, b, ?_, ?_, fun t ht => suffix_append_cons_iff ht⟩
    · rw [splitList_append_cons, splitList_of_notMem hb]
    · exact (List.suffix_cons _ _).trans (List.suffix_append ..)
  · exact ⟨[], s, splitList_of_notMem hc, List.suffix_refl s, fun _ _ => .rfl⟩

end

end Text

namespace Net.Url

/-- A colon or a small letter. -/
def isEndLetter (c : Char) : Bool := c == ':' || c.isLower

/-- An end of a colon with small letters. -/
structure IsPlainEnd (t : List Char) : Prop where
  colon : ':' ∈ t
  letters : t.all isEndLetter = true

theorem IsPlainEnd.isEndLetter_eq {t : List Char} (ht : IsPlainEnd t) {c : Char} (hc : c ∈ t) :
    isEndLetter c = true :=
  List.all_eq_true.mp ht.letters c hc

theorem ne_of_isEndLetter {c d : Char} (hc : isEndLetter c = true) (hd : isEndLetter d = false) :
    c ≠ d := by
  rintro rfl
  exact Bool.false_ne_true (hd.symm.trans hc)

/-! ### Percent notation -/

/-- Percent notation has neither colons nor small letters. -/
theorem notMem_percentByte {c : Char} (h : isEndLetter c = true) (b : UInt8) :
    c ∉ percentByte b := by
  have hdigit : ∀ n : Fin 16, isEndLetter (Hex.digit n).toUpper = false := by decide
  have hb : b.toNat < 256 := b.toNat_lt
  simp only [percentByte, List.mem_cons, List.not_mem_nil, or_false, not_or]
  exact ⟨ne_of_isEndLetter h (by decide), ne_of_isEndLetter h (hdigit ⟨b.toNat / 16, by omega⟩),
    ne_of_isEndLetter h (hdigit ⟨b.toNat % 16, by omega⟩)⟩

/-- Colons and small letters stand for themselves in a path. -/
theorem isPlainInPath_of_isEndLetter {c : Char} (h : isEndLetter c = true) :
    isPlainInPath c = true := by
  have hspecial : ['"', '#', '<', '>', '?', '`', '\x7b', '\x7d'].any isEndLetter = false := by
    decide
  have hbounds : 0x20 < c.toNat ∧ c.toNat < 0x7F := by
    rcases Bool.or_eq_true_iff.mp h with h | h
    · rw [beq_iff_eq.mp h]
      decide
    · obtain ⟨hlow, hhigh⟩ := Bool.and_eq_true_iff.mp h
      have hlow : 97 ≤ c.toNat := of_decide_eq_true hlow
      have hhigh : c.toNat ≤ 122 := of_decide_eq_true hhigh
      omega
  simp only [isPlainInPath, Bool.and_eq_true, decide_eq_true_eq, Bool.not_eq_true',
    Bool.eq_false_iff, ne_eq, List.contains_iff_mem]
  exact ⟨hbounds, fun hc => List.any_eq_false.mp hspecial c hc h⟩

/-- What does not stand for itself ends in percent notation. -/
theorem exists_percentByte (c : Char) : ∃ front last b,
    (String.singleton c).toUTF8.toList.flatMap percentByte = front ++ [last] ∧
      last ∈ percentByte b := by
  rw [Text.toList_toUTF8, String.toList_singleton, Text.bytesOf_singleton]
  obtain ⟨bytes, b, hbytes⟩ :=
    (List.eq_nil_or_concat' _).resolve_left (Text.utf8EncodeChar_ne_nil c)
  have hne : percentByte b ≠ [] := List.cons_ne_nil _ _
  refine ⟨bytes.flatMap percentByte ++ (percentByte b).dropLast, (percentByte b).getLast hne, b, ?_,
    List.getLast_mem hne⟩
  rw [hbytes, List.flatMap_append, List.flatMap_singleton, List.append_assoc,
    List.dropLast_append_getLast]

/-- Percent notation leaves every end as it is whose characters stand for themselves and are not its
own. -/
theorem suffix_percentEncode_iff {plain : Char → Bool} {t cs : List Char}
    (ht : ∀ c ∈ t, plain c = true ∧ ∀ b, c ∉ percentByte b) :
    t <:+ percentEncode plain cs ↔ t <:+ cs := by
  induction cs using List.reverseRecOn generalizing t with
  | nil => rfl
  | append_singleton cs c ih =>
    have hconcat : percentEncode plain (cs ++ [c]) = percentEncode plain cs ++
        (if plain c then [c] else (String.singleton c).toUTF8.toList.flatMap percentByte) := by
      rw [percentEncode, List.flatMap_append, List.flatMap_singleton, percentEncode]
    rw [hconcat, List.suffix_concat_iff]
    by_cases hplain : plain c = true
    · rw [if_pos hplain, List.suffix_concat_iff]
      refine or_congr_right (exists_congr fun t' => and_congr_right fun h => ih fun x hx => ht x ?_)
      rw [h]
      exact List.mem_append_left _ hx
    · obtain ⟨front, last, b, hnotation, hlast⟩ := exists_percentByte c
      rw [if_neg hplain, hnotation, ← List.append_assoc, List.suffix_concat_iff]
      refine or_congr_right (iff_of_false ?_ ?_)
      · rintro ⟨t', rfl, -⟩
        exact (ht last (by simp)).2 b hlast
      · rintro ⟨t', rfl, -⟩
        exact hplain (ht c (by simp)).1

/-! ### Parts -/

/-- What the last part of a path becomes. Dots leave nothing. -/
def lastPart (part : List Char) : List Char :=
  let s := percentEncode isPlainInPath (part.filter (!isLayout ·))
  if isDoubleDot s || isDot s then [] else s

/-- The last part comes to stand at the end. -/
theorem parts_addAll (p : PathReading) (front : List (List Char)) (part : List Char) :
    ∃ kept, (PathReading.addAll .web p (front ++ [part])).parts = kept ++ [lastPart part] := by
  induction front generalizing p with
  | nil =>
    simp only [List.nil_append, PathReading.addAll, PathReading.add, List.isEmpty_nil, lastPart]
    split
    · next h => simp at h
    · split
      · exact ⟨_, rfl⟩
      · exact ⟨_, by simp; rfl⟩
  | cons x front ih => exact ih _

/-- Dots have no colon. -/
theorem colon_notMem_of_isDot {s : List Char} (h : (isDoubleDot s || isDot s) = true) :
    ':' ∉ s := by
  intro hmem
  have hlower : ':' ∈ s.map Char.toLower := List.mem_map.mpr ⟨':', hmem, rfl⟩
  have hdouble : ∀ d ∈ ["..", ".%2e", "%2e.", "%2e%2e"], ':' ∉ d.toList := by decide
  have hsingle : ∀ d ∈ [['.'], ['%', '2', 'e']], ':' ∉ d := by decide
  rcases Bool.or_eq_true_iff.mp h with h | h
  · refine hdouble _ (List.contains_iff_mem.mp h) ?_
    rwa [String.toList_ofList]
  · simp only [isDot, Bool.or_eq_true, beq_iff_eq] at h
    rcases h with h | h
    · exact hsingle _ (by simp) (h ▸ hlower)
    · exact hsingle _ (by simp) (h ▸ hlower)

section

variable {t : List Char} (ht : IsPlainEnd t)
include ht

/-- A last part has a plain end exactly if it has it in the text. -/
theorem suffix_lastPart_iff {part : List Char} (hpart : ∀ c ∈ part, isLayout c = false) :
    t <:+ lastPart part ↔ t <:+ part := by
  have hfilter : part.filter (!isLayout ·) = part :=
    List.filter_eq_self.mpr fun c hc => by rw [hpart c hc]; rfl
  have hencode : t <:+ percentEncode isPlainInPath part ↔ t <:+ part :=
    suffix_percentEncode_iff fun c hc =>
      ⟨isPlainInPath_of_isEndLetter (ht.isEndLetter_eq hc),
        notMem_percentByte (ht.isEndLetter_eq hc)⟩
  simp only [lastPart, hfilter]
  split
  · next hdots =>
    have hcolon := colon_notMem_of_isDot hdots
    refine iff_of_false (fun h => ?_) fun h => hcolon ((hencode.mpr h).subset ht.colon)
    exact List.not_mem_nil (h.subset ht.colon)
  · exact hencode

/-- A plain end has no slash of either kind. -/
theorem IsPlainEnd.isSlash_eq {c : Char} (hc : c ∈ t) : isSlash .web c = false := by
  have hslash : c ≠ '/' := ne_of_isEndLetter (ht.isEndLetter_eq hc) (by decide)
  have hback : c ≠ '\\' := ne_of_isEndLetter (ht.isEndLetter_eq hc) (by decide)
  simp [isSlash, hslash, hback]

theorem IsPlainEnd.slash_notMem : '/' ∉ t := by
  intro hslash
  exact absurd (ht.isSlash_eq hslash) (by decide)

/-- Slashes of one kind leave a plain end as it is. -/
theorem suffix_map_isSlash_iff {cs : List Char} :
    t <:+ cs.map (fun c => if isSlash .web c then '/' else c) ↔ t <:+ cs := by
  have hmap {l : List Char} (hl : ∀ c ∈ l, isSlash .web c = false) :
      l.map (fun c => if isSlash .web c then '/' else c) = l := by
    refine (List.map_congr_left fun c hc => ?_).trans (List.map_id' l)
    rw [hl c hc]
    rfl
  rw [List.suffix_map_iff]
  constructor
  · rintro ⟨l, hl, rfl⟩
    rwa [hmap fun c hc => ?_]
    refine Bool.eq_false_iff.mpr fun hslash => ht.slash_notMem (List.mem_map.mpr ⟨c, hc, ?_⟩)
    rw [if_pos hslash]
  · exact fun h => ⟨t, h, (hmap fun c hc => ht.isSlash_eq hc).symm⟩

end

/-! ### Paths -/

/-- The slash in front of the last part is the last one. -/
theorem exists_intercalate_eq (c : Char) (front : List (List Char)) (last : List Char) :
    ∃ before, c :: [c].intercalate (front ++ [last]) = before ++ c :: last := by
  induction front with
  | nil => exact ⟨[], by rw [List.nil_append, List.intercalate_singleton, List.nil_append]⟩
  | cons x front ih =>
    obtain ⟨before, h⟩ := ih
    obtain ⟨y, rest, hrest⟩ : ∃ y rest, front ++ [last] = y :: rest :=
      List.exists_cons_of_ne_nil (List.append_ne_nil_of_right_ne_nil front (List.cons_ne_nil _ _))
    rw [hrest] at h
    refine ⟨c :: x ++ before, ?_⟩
    rw [List.cons_append, hrest, List.intercalate_cons_cons, List.append_assoc, List.append_assoc,
      List.singleton_append, h, List.cons_append]

/-- A path has a plain end exactly if the text that it is read from has it. -/
theorem suffix_pathText_iff {t cs : List Char} (ht : IsPlainEnd t)
    (hcs : ∀ c ∈ cs, isLayout c = false) {u : Url}
    (hu : u.path = (readPath .web cs).parts.map String.ofList) :
    t <:+ u.pathText.toList ↔ t <:+ cs := by
  obtain ⟨front, last, hsplit, hlast, hends⟩ :=
    Text.exists_splitList_eq '/' (cs.map fun c => if isSlash .web c then '/' else c)
  obtain ⟨kept, hparts⟩ := parts_addAll {} front last
  obtain ⟨before, htext⟩ := exists_intercalate_eq '/' kept (lastPart last)
  have hpath : u.pathText.toList = before ++ '/' :: lastPart last := by
    rw [← htext, pathText, hu, readPath, hsplit]
    simp only [reduceCtorEq, if_false, hparts, String.toList_append, String.toList_intercalate,
      List.map_map]
    simp
  have hlayout : ∀ c ∈ last, isLayout c = false := by
    intro c hc
    obtain ⟨d, hd, rfl⟩ := List.mem_map.mp (hlast.subset hc)
    split
    · decide
    · exact hcs d hd
  rw [hpath, Text.suffix_append_cons_iff ht.slash_notMem, suffix_lastPart_iff ht hlayout,
    ← hends t ht.slash_notMem, suffix_map_isSlash_iff ht]

/-- What a path is read from: the text up to the query or the fragment. -/
def pathChars (cs : List Char) : List Char := cs.takeWhile fun c => c != '?' && c != '#'

theorem path_readResource (kind : SchemeKind) (cs : List Char) :
    (readResource kind cs).path = (readPath kind (pathChars cs)).parts.map String.ofList := by
  have h : (cs.takeWhile (· != '#')).takeWhile (· != '?') = pathChars cs := by
    simp only [List.takeWhile_takeWhile, Bool.decide_and, Bool.decide_eq_true, pathChars]
  rw [readResource, h]

/-! ### Addresses on the web -/

theorem isTrimmed_of_isLayout {c : Char} (h : isLayout c = true) : isTrimmed c = true := by
  simp only [isLayout, Bool.or_eq_true, beq_iff_eq] at h
  rcases h with (rfl | rfl) | rfl <;> decide

/-- Of what follows the host it only matters whether it is there. -/
theorem authority_cons (kind : SchemeKind) (cs rest : List Char) (c : Char) :
    authority kind cs (c :: rest) = authority kind cs ['/'] := rfl

/-- What stands behind the scheme and starts with a host is read as the host and what follows it. -/
theorem hosted_web {scheme : String} {host tail : List Char} {h : Option Host} {port : Option Nat}
    (hhost : ∀ c ∈ host, endsAuthority .web c = false)
    (hauthority : authority .web host ['/'] = .ok (h, port)) :
    parse.hosted scheme .web (host ++ '/' :: tail) = .ok {
      scheme := scheme
      host := h
      port := port
      path := (readResource .web tail).path
      query := (readResource .web tail).query
      fragment := (readResource .web tail).fragment } := by
  have hfront : (host ++ '/' :: tail).takeWhile (!endsAuthority .web ·) = host := by
    rw [List.takeWhile_append_of_pos fun c hc => by rw [hhost c hc]; rfl]
    exact List.append_nil host
  rw [parse.hosted, hfront, List.drop_left, authority_cons, hauthority]
  rfl

/-- The scheme of the web in front of a text. -/
theorem scheme?_http (cs : List Char) : scheme? ("http:".toList ++ cs) = some ("http", cs) := by
  have hlower : Text.lower (String.ofList "http".toList) = "http" := by
    rw [← String.toList_inj, Text.lower, String.toList_map, String.toList_ofList]
    decide
  have h : scheme? ("http:".toList ++ cs) =
      some (Text.lower (String.ofList "http".toList), cs) := rfl
  rw [h, hlower]

/-- A text without blanks at its ends loses nothing there. -/
theorem trim_eq_self {cs : List Char} (hfirst : ∀ c ∈ cs.head?, isTrimmed c = false)
    (hlast : ∀ c ∈ cs.getLast?, isTrimmed c = false) :
    ((cs.dropWhile isTrimmed).reverse.dropWhile isTrimmed).reverse = cs := by
  have hdrop {l : List Char} (h : ∀ c ∈ l.head?, isTrimmed c = false) :
      l.dropWhile isTrimmed = l := by
    cases l with
    | nil => rfl
    | cons c l => exact List.dropWhile_cons_of_neg (by simp [h c rfl])
  rw [hdrop hfirst, hdrop (by rwa [List.head?_reverse]), List.reverse_reverse]

/-- A text that starts with a host on the web and ends in no blank is read as that host and what
follows it. -/
theorem parse_web {site : String} {tail : String} (hne : site.toList ≠ [])
    (hsite : ∀ c ∈ site.toList, endsAuthority .web c = false ∧ isTrimmed c = false)
    (htail : ∀ c ∈ tail.toList.getLast?, isTrimmed c = false) :
    parse ("http://" ++ site ++ "/" ++ tail) =
      parse.hosted "http" .web (site.toList ++ '/' :: tail.toList.filter (!isLayout ·)) := by
  have htext : ("http://" ++ site ++ "/" ++ tail).toList =
      "http:".toList ++ ('/' :: '/' :: (site.toList ++ '/' :: tail.toList)) := by
    have hscheme : "http://".toList = "http:".toList ++ ['/', '/'] := by decide
    have hslash : "/".toList = ['/'] := by decide
    simp only [String.toList_append, hscheme, hslash, List.append_assoc, List.cons_append,
      List.nil_append]
  generalize site.toList = host at *
  generalize tail.toList = tail at *
  have hfirst : ∀ c ∈ ("http:".toList ++ ('/' :: '/' :: (host ++ '/' :: tail))).head?,
      isTrimmed c = false := by
    rintro c ⟨⟩
    rfl
  have hlast : ∀ c ∈ ("http:".toList ++ ('/' :: '/' :: (host ++ '/' :: tail))).getLast?,
      isTrimmed c = false := by
    intro c hc
    rcases List.eq_nil_or_concat' tail with rfl | ⟨front, d, rfl⟩
    · have hslash : c = '/' := by simpa [List.getLast?_cons] using hc.symm
      rw [hslash]
      rfl
    · have hd : c = d := by simpa [List.getLast?_cons] using hc.symm
      exact htail c (by simp [hd])
  have hhost' : host.filter (!isLayout ·) = host := by
    refine List.filter_eq_self.mpr fun c hc => ?_
    have hlayout := mt isTrimmed_of_isLayout (Bool.eq_false_iff.mp (hsite c hc).2)
    rw [Bool.eq_false_iff.mpr hlayout]
    rfl
  have hfilter : ("http:".toList ++ ('/' :: '/' :: (host ++ '/' :: tail))).filter (!isLayout ·) =
      "http:".toList ++ ('/' :: '/' :: (host ++ '/' :: tail.filter (!isLayout ·))) := by
    rw [List.filter_append, List.filter_cons_of_pos (by decide),
      List.filter_cons_of_pos (by decide), List.filter_append, hhost',
      List.filter_cons_of_pos (by decide)]
    rfl
  have hskip : ('/' :: '/' :: (host ++ '/' :: tail.filter (!isLayout ·))).dropWhile
      (isSlash .web) = host ++ '/' :: tail.filter (!isLayout ·) := by
    obtain ⟨c, host, rfl⟩ := List.exists_cons_of_ne_nil hne
    have hc : isSlash .web c = false := by
      have h := (hsite c List.mem_cons_self).1
      simp only [endsAuthority, Bool.or_eq_false_iff] at h
      exact h.1.1
    rw [List.dropWhile_cons_of_pos (by decide), List.dropWhile_cons_of_pos (by decide),
      List.cons_append, List.dropWhile_cons_of_neg (by simp [hc])]
  have hweb : SchemeKind.of "http" = .web := by decide
  rw [parse, htext, trim_eq_self hfirst hlast]
  simp only [hfilter, scheme?_http, hweb, hskip]

end Net.Url

end ServiceControl
