import Mathlib.Data.List.Chain
import Mathlib.Data.List.Induction
import ServiceControl.Bundled.Statsd

/-!
# Texts joined by points

A text is tidy if points and slashes stand neither at its ends nor side by side. A text with
something in it is tidy just if it still is between two points, so a join is tidy just if each piece
is tidy and not empty. Of the empty pieces, `joinPieces` drops those at the two ends only.
-/

namespace ServiceControl.Statsd

/-- The characters between the parts of names; slashes become points. -/
def isBreak (c : Char) : Bool := c == '.' || c == '/'

/-- Of two characters side by side at most one is such a character. -/
def Apart (c d : Char) : Prop := isBreak c = true → isBreak d = false

instance (c d : Char) : Decidable (Apart c d) := inferInstanceAs (Decidable (_ → _))

theorem apart_of_not_break {c : Char} (h : isBreak c = false) (d : Char) : Apart c d := by
  intro hc
  rw [h] at hc
  cases hc

theorem point_apart_iff {c : Char} : Apart '.' c ↔ isBreak c = false :=
  ⟨fun h => h rfl, fun h _ => h⟩

theorem apart_point_iff {c : Char} : Apart c '.' ↔ isBreak c = false := by
  constructor
  · intro h
    exact Bool.eq_false_iff.mpr fun hc => absurd (h hc) (by decide)
  · exact fun h => apart_of_not_break h _

/-- Points and slashes stand neither at the ends nor side by side. -/
structure IsTidy (s : String) : Prop where
  head : ∀ c ∈ s.toList.head?, isBreak c = false
  last : ∀ c ∈ s.toList.getLast?, isBreak c = false
  inside : s.toList.IsChain Apart

-- the ends are looked at directly: a search for an instance may decide them over all characters
instance (s : String) : Decidable (IsTidy s) :=
  have : Decidable (∀ c ∈ s.toList.head?, isBreak c = false) := Option.decidableForallMem _
  have : Decidable (∀ c ∈ s.toList.getLast?, isBreak c = false) := Option.decidableForallMem _
  decidable_of_iff ((∀ c ∈ s.toList.head?, isBreak c = false) ∧
      (∀ c ∈ s.toList.getLast?, isBreak c = false) ∧ s.toList.IsChain Apart)
    ⟨fun h => ⟨h.1, h.2.1, h.2.2⟩, fun h => ⟨h.head, h.last, h.inside⟩⟩

/-- What may stand between two points. -/
def IsSegment (s : String) : Prop := ('.' :: (s.toList ++ ['.'])).IsChain Apart

theorem isSegment_iff {s : String} : IsSegment s ↔ s ≠ "" ∧ IsTidy s := by
  have hne : s ≠ "" ↔ s.toList ≠ [] := not_congr String.toList_eq_nil_iff.symm
  rw [hne, IsSegment, List.isChain_cons, List.isChain_append]
  simp only [List.head?_append, List.head?_cons, Option.mem_some_iff, forall_eq',
    point_apart_iff, apart_point_iff]
  constructor
  · rintro ⟨hhead, hinside, -, hlast⟩
    refine ⟨?_, ?_, hlast, hinside⟩
    · intro hnil
      rw [hnil] at hhead
      cases hhead '.' rfl
    · intro c hc
      exact hhead c (by rw [Option.mem_def.mp hc]; rfl)
  · rintro ⟨hnil, htidy⟩
    obtain ⟨c, rest, hlist⟩ := List.exists_cons_of_ne_nil hnil
    refine ⟨?_, htidy.inside, List.isChain_singleton _, htidy.last⟩
    have hhead := htidy.head
    rw [hlist] at hhead ⊢
    exact hhead

theorem isTidy_iff {s : String} : IsTidy s ↔ s = "" ∨ IsSegment s := by
  rw [isSegment_iff]
  by_cases hs : s = ""
  · subst hs
    exact iff_of_true ⟨nofun, nofun, List.isChain_nil⟩ (.inl rfl)
  · simp only [hs, ne_eq, not_false_eq_true, true_and, false_or]

/-- A point joins two texts tidily just if there is something on either side, and both are tidy. -/
theorem isSegment_append_point (a b : String) :
    IsSegment (a ++ "." ++ b) ↔ IsSegment a ∧ IsSegment b := by
  have hlist : '.' :: ((a ++ "." ++ b).toList ++ ['.']) =
      ('.' :: a.toList) ++ '.' :: (b.toList ++ ['.']) := by
    have hpoint : ".".toList = ['.'] := by decide
    simp only [String.toList_append, hpoint, List.append_assoc, List.cons_append, List.nil_append]
  rw [IsSegment, hlist, List.isChain_split]
  rfl

/-- A join is tidy and has something in it just if this holds of every piece. -/
theorem isSegment_intercalate {pieces : List String} (hne : pieces ≠ []) :
    IsSegment (".".intercalate pieces) ↔ ∀ s ∈ pieces, IsSegment s := by
  induction pieces with
  | nil => exact absurd rfl hne
  | cons p pieces ih =>
    cases pieces with
    | nil => simp only [String.intercalate_singleton, List.forall_mem_singleton]
    | cons q pieces =>
      rw [String.intercalate_cons_cons, isSegment_append_point, ih (List.cons_ne_nil _ _),
        List.forall_mem_cons (l := q :: pieces)]

/-- Pieces without the empty ones at the two ends. -/
def withoutEmptyEnds (pieces : List String) : List String := Text.trimListBy (· == "") pieces

/-- The pieces that are not empty. -/
def nonEmpty (pieces : List String) : List String := pieces.filter (· != "")

theorem nonEmpty_withoutEmptyEnds (pieces : List String) :
    nonEmpty (withoutEmptyEnds pieces) = nonEmpty pieces :=
  Text.filter_trimListBy _ pieces

theorem withoutEmptyEnds_eq_nil_iff {pieces : List String} :
    withoutEmptyEnds pieces = [] ↔ ∀ s ∈ pieces, s = "" := by
  simp only [withoutEmptyEnds, Text.trimListBy_eq_nil_iff, beq_iff_eq]

theorem withoutEmptyEnds_subset (pieces : List String) : withoutEmptyEnds pieces ⊆ pieces := by
  obtain ⟨before, behind, hpieces, -, -⟩ := Text.exists_trimListBy (· == "") pieces
  intro s hs
  rw [hpieces]
  exact List.mem_append_left _ (List.mem_append_right _ hs)

section

variable {pieces : List String}

theorem mem_nonEmpty_iff {s : String} : s ∈ nonEmpty pieces ↔ s ∈ pieces ∧ s ≠ "" := by
  simp only [nonEmpty, List.mem_filter, bne_iff_ne]

@[simp] theorem nonEmpty_append (pieces rest : List String) :
    nonEmpty (pieces ++ rest) = nonEmpty pieces ++ nonEmpty rest :=
  List.filter_append pieces rest

theorem nonEmpty_cons (s : String) (pieces : List String) :
    nonEmpty (s :: pieces) = nonEmpty [s] ++ nonEmpty pieces :=
  nonEmpty_append [s] pieces

theorem head?_withoutEmptyEnds (pieces : List String) :
    ∀ s ∈ (withoutEmptyEnds pieces).head?, s ≠ "" := fun s hs =>
  beq_eq_false_iff_ne.mp (Text.head?_trimListBy s hs)

theorem getLast?_withoutEmptyEnds (pieces : List String) :
    ∀ s ∈ (withoutEmptyEnds pieces).getLast?, s ≠ "" := fun s hs =>
  beq_eq_false_iff_ne.mp (Text.getLast?_trimListBy s hs)

theorem withoutEmptyEnds_eq_self (hhead : ∀ s ∈ pieces.head?, s ≠ "")
    (hlast : ∀ s ∈ pieces.getLast?, s ≠ "") : withoutEmptyEnds pieces = pieces :=
  Text.trimListBy_eq_self (fun s hs => beq_eq_false_iff_ne.mpr (hhead s hs))
    fun s hs => beq_eq_false_iff_ne.mpr (hlast s hs)

@[simp] theorem withoutEmptyEnds_withoutEmptyEnds (pieces : List String) :
    withoutEmptyEnds (withoutEmptyEnds pieces) = withoutEmptyEnds pieces :=
  withoutEmptyEnds_eq_self (head?_withoutEmptyEnds pieces) (getLast?_withoutEmptyEnds pieces)

@[simp] theorem withoutEmptyEnds_empty_cons (pieces : List String) :
    withoutEmptyEnds ("" :: pieces) = withoutEmptyEnds pieces :=
  Text.trimListBy_cons_of_pos rfl pieces

@[simp] theorem withoutEmptyEnds_concat_empty (pieces : List String) :
    withoutEmptyEnds (pieces ++ [""]) = withoutEmptyEnds pieces :=
  Text.trimListBy_concat_of_pos rfl pieces

/-- One piece between two groups: an empty one stays just if something is left of both groups. -/
theorem forall_withoutEmptyEnds_append_cons (before behind : List String) (s : String) :
    (∀ t ∈ withoutEmptyEnds (withoutEmptyEnds before ++ s :: withoutEmptyEnds behind), t ≠ "") ↔
      (∀ t ∈ withoutEmptyEnds before, t ≠ "") ∧ (∀ t ∈ withoutEmptyEnds behind, t ≠ "") ∧
        (s = "" → withoutEmptyEnds before = [] ∨ withoutEmptyEnds behind = []) := by
  by_cases hbefore : s = "" ∧ withoutEmptyEnds before = []
  · rw [hbefore.1, hbefore.2]
    simp
  by_cases hbehind : s = "" ∧ withoutEmptyEnds behind = []
  · rw [hbehind.1, hbehind.2]
    simp
  have hself : withoutEmptyEnds (withoutEmptyEnds before ++ s :: withoutEmptyEnds behind) =
      withoutEmptyEnds before ++ s :: withoutEmptyEnds behind := by
    apply withoutEmptyEnds_eq_self
    · intro t ht
      rw [List.head?_append, Option.mem_def, Option.or_eq_some_iff] at ht
      rcases ht with ht | ⟨hnone, ht⟩
      · exact head?_withoutEmptyEnds before t ht
      · cases ht
        exact fun hs => hbefore ⟨hs, List.head?_eq_none_iff.mp hnone⟩
    · intro t ht
      rw [List.append_cons, List.getLast?_append, List.getLast?_concat, Option.mem_def,
        Option.or_eq_some_iff] at ht
      rcases ht with ht | ⟨hnone, ht⟩
      · exact getLast?_withoutEmptyEnds behind t ht
      · cases ht
        exact fun hs => hbehind ⟨hs, List.getLast?_eq_none_iff.mp hnone⟩
  have hgap : (s = "" → withoutEmptyEnds before = [] ∨ withoutEmptyEnds behind = []) ↔ s ≠ "" :=
    ⟨fun h hs => (h hs).elim (fun h => hbefore ⟨hs, h⟩) fun h => hbehind ⟨hs, h⟩,
      fun hs h => absurd h hs⟩
  rw [hself, List.forall_mem_append, List.forall_mem_cons, hgap]
  exact and_congr_right fun _ => and_comm

end

theorem trimPoints_point_append (s : String) : trimPoints ("." ++ s) = trimPoints s := by
  have hlist : ("." ++ s).toList = '.' :: s.toList := String.toList_append
  rw [trimPoints, Text.trimBy, hlist, Text.trimListBy_cons_of_pos rfl]
  rfl

theorem trimPoints_append_point (s : String) : trimPoints (s ++ ".") = trimPoints s := by
  have hlist : (s ++ ".").toList = s.toList ++ ['.'] := String.toList_append
  rw [trimPoints, Text.trimBy, hlist, Text.trimListBy_concat_of_pos rfl]
  rfl

/-- A join that comes first is the same as its pieces. -/
theorem joinPieces_join_cons (pieces : List String) {rest : List String} (hne : rest ≠ []) :
    joinPieces (".".intercalate pieces :: rest) = joinPieces (pieces ++ rest) := by
  rw [joinPieces, joinPieces, String.intercalate_cons_of_ne_nil hne]
  cases pieces with
  | nil =>
    rw [String.intercalate_nil, String.empty_append, trimPoints_point_append, List.nil_append]
  | cons p pieces => rw [String.intercalate_append_of_ne_nil (List.cons_ne_nil _ _) hne]

/-- A join that comes last is the same as its pieces. -/
theorem joinPieces_concat_join (pieces : List String) {start : List String} (hne : start ≠ []) :
    joinPieces (start ++ [".".intercalate pieces]) = joinPieces (start ++ pieces) := by
  rw [joinPieces, joinPieces, String.intercalate_append_of_ne_nil hne (List.cons_ne_nil _ _),
    String.intercalate_singleton]
  cases pieces with
  | nil =>
    rw [String.intercalate_nil, String.append_empty, trimPoints_append_point, List.append_nil]
  | cons p pieces => rw [String.intercalate_append_of_ne_nil hne (List.cons_ne_nil _ _)]

/-- Empty pieces at the ends are dropped. -/
theorem joinPieces_withoutEmptyEnds (pieces : List String) :
    joinPieces (withoutEmptyEnds pieces) = joinPieces pieces := by
  have hfront : ∀ before rest : List String, (∀ s ∈ before, s = "") →
      joinPieces (before ++ rest) = joinPieces rest := by
    intro before rest h
    induction before with
    | nil => rfl
    | cons s before ih =>
      rw [List.forall_mem_cons] at h
      rw [h.1, ← ih h.2, List.cons_append]
      cases hrest : before ++ rest with
      | nil => rfl
      | cons q rest' => exact joinPieces_join_cons [] (List.cons_ne_nil _ _)
  have hback : ∀ behind start : List String, (∀ s ∈ behind, s = "") →
      joinPieces (start ++ behind) = joinPieces start := by
    intro behind start h
    induction behind generalizing start with
    | nil => rw [List.append_nil]
    | cons s behind ih =>
      rw [List.forall_mem_cons] at h
      rw [h.1, List.append_cons, ih _ h.2]
      cases start with
      | nil => rfl
      | cons q start =>
        exact (joinPieces_concat_join [] (List.cons_ne_nil _ _)).trans
          (congrArg joinPieces (List.append_nil _))
  obtain ⟨before, behind, hpieces, hbefore, hbehind⟩ := Text.exists_trimListBy (· == "") pieces
  simp only [beq_iff_eq] at hbefore hbehind
  conv_rhs => rw [hpieces, List.append_assoc, hfront _ _ hbefore, hback _ _ hbehind]
  rfl

theorem trimPoints_eq_self {s : String} (hhead : ∀ c ∈ s.toList.head?, isBreak c = false)
    (hlast : ∀ c ∈ s.toList.getLast?, isBreak c = false) : trimPoints s = s := by
  have hpoint : ∀ c, isBreak c = false → (c == '.') = false := fun c hc =>
    (Bool.or_eq_false_iff.mp hc).1
  rw [trimPoints, Text.trimBy,
    Text.trimListBy_eq_self (fun c hc => hpoint c (hhead c hc)) fun c hc => hpoint c (hlast c hc),
    String.ofList_toList]

theorem exists_intercalate_cons (p : String) (rest : List String) :
    ∃ t, ".".intercalate (p :: rest) = p ++ t := by
  cases rest with
  | nil => exact ⟨"", by rw [String.intercalate_singleton, String.append_empty]⟩
  | cons q rest =>
    exact ⟨"." ++ ".".intercalate (q :: rest), by
      rw [String.intercalate_cons_cons, String.append_assoc]⟩

theorem exists_intercalate_concat (start : List String) (q : String) :
    ∃ t, ".".intercalate (start ++ [q]) = t ++ q := by
  cases start with
  | nil => exact ⟨"", by rw [List.nil_append, String.intercalate_singleton, String.empty_append]⟩
  | cons p start =>
    exact ⟨".".intercalate (p :: start) ++ ".", by
      rw [String.intercalate_append_of_ne_nil (List.cons_ne_nil _ _) (List.cons_ne_nil _ _),
        String.intercalate_singleton]⟩

/-- Of tidy pieces those are joined that are left without empty ones at the two ends. -/
theorem joinPieces_eq {pieces : List String} (h : ∀ s ∈ pieces, IsTidy s) :
    joinPieces pieces = ".".intercalate (withoutEmptyEnds pieces) := by
  rw [← joinPieces_withoutEmptyEnds, joinPieces]
  have htidy : ∀ s ∈ withoutEmptyEnds pieces, s ≠ "" → s.toList ≠ [] ∧ IsTidy s := by
    intro s hs hne
    exact ⟨fun hnil => hne (String.toList_eq_nil_iff.mp hnil),
      h s (withoutEmptyEnds_subset pieces hs)⟩
  have hhead := head?_withoutEmptyEnds pieces
  have hlast := getLast?_withoutEmptyEnds pieces
  generalize withoutEmptyEnds pieces = kept at htidy hhead hlast
  apply trimPoints_eq_self
  · cases kept with
    | nil => exact nofun
    | cons p rest =>
      obtain ⟨hne, hp⟩ := htidy p List.mem_cons_self (hhead p rfl)
      obtain ⟨t, ht⟩ := exists_intercalate_cons p rest
      rw [ht, String.toList_append, List.head?_append_of_ne_nil _ hne]
      exact hp.head
  · cases kept using List.reverseRecOn with
    | nil => exact nofun
    | append_singleton start q =>
      obtain ⟨hne, hq⟩ := htidy q List.mem_concat_self (hlast q List.getLast?_concat)
      obtain ⟨t, ht⟩ := exists_intercalate_concat start q
      rw [ht, String.toList_append, List.getLast?_append_of_ne_nil _ hne]
      exact hq.last

/-- Only a single empty piece joins to nothing. -/
theorem intercalate_ne_empty {pieces : List String} (hne : pieces ≠ []) (hone : pieces ≠ [""]) :
    ".".intercalate pieces ≠ "" := by
  cases pieces with
  | nil => exact absurd rfl hne
  | cons p pieces =>
    cases pieces with
    | nil =>
      rw [String.intercalate_singleton]
      rintro rfl
      exact hone rfl
    | cons q pieces =>
      intro h
      have hlist := String.toList_eq_nil_iff.mpr h
      rw [String.intercalate_cons_cons, String.toList_append, String.toList_append,
        List.append_assoc, List.append_eq_nil_iff, List.append_eq_nil_iff] at hlist
      exact absurd hlist.2.1 (by decide)

section

variable {pieces : List String}

/-- A join of tidy pieces is tidy just if none of them is empty. -/
theorem isTidy_intercalate_iff (h : ∀ s ∈ pieces, IsTidy s) (hone : pieces ≠ [""]) :
    IsTidy (".".intercalate pieces) ↔ ∀ s ∈ pieces, s ≠ "" := by
  by_cases hne : pieces = []
  · rw [hne]
    exact iff_of_true (isTidy_iff.mpr (.inl String.intercalate_nil)) nofun
  · rw [isTidy_iff, or_iff_right (intercalate_ne_empty hne hone), isSegment_intercalate hne]
    exact forall₂_congr fun s hs => by rw [isSegment_iff, and_iff_left (h s hs)]

/-- The pieces that are not empty join to a tidy text. -/
theorem isTidy_intercalate_nonEmpty (h : ∀ s ∈ pieces, IsTidy s) :
    IsTidy (".".intercalate (nonEmpty pieces)) := by
  have hne : ∀ s ∈ nonEmpty pieces, s ≠ "" := fun s hs => (mem_nonEmpty_iff.mp hs).2
  refine (isTidy_intercalate_iff (fun s hs => h s (mem_nonEmpty_iff.mp hs).1) ?_).mpr hne
  intro hone
  exact hne "" (hone ▸ List.mem_singleton_self "") rfl

/-- A join is that of the pieces that are not empty just if none is empty. -/
theorem intercalate_eq_nonEmpty_iff (h : ∀ s ∈ pieces, IsTidy s) (hone : pieces ≠ [""]) :
    ".".intercalate pieces = ".".intercalate (nonEmpty pieces) ↔ ∀ s ∈ pieces, s ≠ "" := by
  constructor
  · intro heq
    rw [← isTidy_intercalate_iff h hone, heq]
    exact isTidy_intercalate_nonEmpty h
  · intro hne
    rw [nonEmpty, List.filter_eq_self.mpr fun s hs => bne_iff_ne.mpr (hne s hs)]

end

/-- Points and slashes stay apart where a tidy text is put for another one. Any character in front
of the list does, so that the induction can go on behind what was put in. -/
theorem isChain_replaceList {old new : List Char} (hnew : ('.' :: (new ++ ['.'])).IsChain Apart)
    {s : List Char} {n : Nat} {x : Char} (h : (x :: (s.drop n ++ ['.'])).IsChain Apart) :
    (x :: (Text.replaceList old new n s ++ ['.'])).IsChain Apart := by
  induction s generalizing n x with
  | nil => simpa only [Text.replaceList, List.drop_nil] using h
  | cons c s ih =>
    cases n with
    | succ n => exact ih h
    | zero =>
      rw [Text.replaceList]
      rw [List.drop_zero, List.cons_append, List.isChain_cons_cons] at h
      cases hr : Text.afterList? old (c :: s) with
      | none =>
        rw [List.cons_append, List.isChain_cons_cons]
        exact ⟨h.1, ih h.2⟩
      | some r =>
        obtain ⟨start, y, rfl⟩ : ∃ start y, new = start ++ [y] := by
          cases new using List.reverseRecOn with
          | nil => exact absurd hnew (by decide)
          | append_singleton start y => exact ⟨start, y, rfl⟩
        rw [List.append_assoc, List.singleton_append, ← List.cons_append, List.isChain_split,
          List.isChain_pair, apart_point_iff, List.cons_append, List.isChain_cons] at hnew
        obtain ⟨⟨hhead, hstart⟩, hlast⟩ := hnew
        have hrest : (s.drop (old.length - 1) ++ ['.']).IsChain Apart := by
          rw [← List.take_append_drop (old.length - 1) s, List.append_assoc,
            ← List.cons_append] at h
          exact h.2.right_of_append
        have hbefore : (x :: (start ++ [y])).IsChain Apart :=
          List.isChain_cons.mpr ⟨fun d hd _ => point_apart_iff.mp (hhead d hd), hstart⟩
        have hbehind := ih (List.isChain_cons.mpr
          ⟨fun d _ => apart_of_not_break hlast d, hrest⟩)
        generalize Text.replaceList old (start ++ [y]) (old.length - 1) s = behind at hbehind ⊢
        have hlist : x :: (start ++ [y] ++ behind ++ ['.']) =
            (x :: start) ++ y :: (behind ++ ['.']) := by
          simp only [List.append_assoc, List.cons_append, List.nil_append]
        rw [hlist, List.isChain_split]
        exact ⟨hbefore, hbehind⟩

/-- Replacing by a tidy text leaves a text tidy. -/
theorem IsSegment.replace {old new s : String} (h : IsSegment s) (hnew : IsSegment new) :
    IsSegment (Text.replace old new s) := by
  rw [IsSegment, Text.replace, String.toList_ofList]
  exact isChain_replaceList hnew (by rwa [List.drop_zero])

/-- Slashes can become points. -/
theorem IsSegment.slashesToPoints {s : String} (h : IsSegment s) :
    IsSegment (Text.replaceChar '/' '.' s) := by
  have hbreak : ∀ c : Char, isBreak (if c = '/' then '.' else c) = isBreak c := by
    intro c
    split
    · next hc =>
      rw [hc]
      rfl
    · rfl
  have hlist : '.' :: ((Text.replaceChar '/' '.' s).toList ++ ['.']) =
      ('.' :: (s.toList ++ ['.'])).map fun c => if c = '/' then '.' else c := by
    rw [Text.replaceChar, String.toList_map, List.map_cons, List.map_append]
    rfl
  rw [IsSegment, hlist, List.isChain_map]
  simp only [Apart, hbreak]
  exact h

theorem shortName_empty : shortName "" = "" := by decide +kernel

/-- A tidy name stays tidy when it is shortened, and does not become empty. -/
theorem isSegment_shortName {metric : String} (h : IsSegment metric) :
    IsSegment (shortName metric) := by
  have hservice : IsSegment "service" := isSegment_iff.mpr (by decide)
  have hcloud : IsSegment "cloud" := isSegment_iff.mpr (by decide)
  exact ((h.replace hservice).replace hcloud).slashesToPoints

theorem isTidy_shortName {metric : String} (h : IsTidy metric) : IsTidy (shortName metric) := by
  rcases isTidy_iff.mp h with rfl | h
  · rw [shortName_empty]
    exact h
  · exact isTidy_iff.mpr (.inr (isSegment_shortName h))

theorem shortName_eq_empty_iff {metric : String} (h : IsTidy metric) :
    shortName metric = "" ↔ metric = "" := by
  rcases isTidy_iff.mp h with rfl | h
  · exact iff_of_true shortName_empty rfl
  · exact iff_of_false (isSegment_iff.mp (isSegment_shortName h)).1 (isSegment_iff.mp h).1

end ServiceControl.Statsd
