/-
  LoggingOperator.Proofs.Http.Url — PATHS THAT ARE SENT AS THEY ARE.

  A segment is plain if it has only characters that stand for themselves and
  does not walk.  Behind the address of a server, a path of plain segments is
  sent as it is: nothing of it is escaped, walked or dropped, and it does not
  change which server is meant.

  The reader of addresses goes through the text from the front, and every step
  of it leaves a slash with what follows alone (`scheme?_behind`,
  `dropWhile_behind`, `sentPath_behind`).  So the address without a path says
  all about the address with one.

  Main result:
    * `ofText?_behind` — addresses that differ in the path behind them.
-/
import LoggingOperator.Http.Url

namespace LoggingOperator.Http.Url

/-! ## §1. Characters that stand for themselves -/

/-- Letters, digits and the four marks that mean nothing in an address. -/
def isUnreserved (c : Char) : Bool :=
  ('a' ≤ c && c ≤ 'z') || ('A' ≤ c && c ≤ 'Z') || ('0' ≤ c && c ≤ '9')
    || c == '-' || c == '.' || c == '_' || c == '~'

theorem toNat_lt_of_isUnreserved {c : Char} (h : isUnreserved c = true) : c.toNat < 127 := by
  have hle : ∀ {d : Char}, c ≤ d → c.toNat ≤ d.toNat := fun h => h
  simp only [isUnreserved, Bool.or_eq_true, Bool.and_eq_true, decide_eq_true_eq,
    beq_iff_eq] at h
  rcases h with (((((⟨-, h⟩ | ⟨-, h⟩) | ⟨-, h⟩) | rfl) | rfl) | rfl) | rfl
  · exact Nat.lt_of_le_of_lt (hle h) (by decide)
  · exact Nat.lt_of_le_of_lt (hle h) (by decide)
  · exact Nat.lt_of_le_of_lt (hle h) (by decide)
  all_goals decide

/-- A character to which nothing happens in an address. -/
structure Inert (c : Char) : Prop where
  blank_lt : ' ' < c
  endsServer_eq : endsServer c = false
  escapedInPath_eq : escapedInPath c = false
  ne_percent : c ≠ '%'

theorem Inert.isSlash_eq {c : Char} (h : Inert c) : isSlash c = false := by
  have hends := h.endsServer_eq
  simp only [endsServer, Bool.or_eq_false_iff] at hends
  exact hends.1.1

theorem inert_of_isUnreserved {c : Char} (h : isUnreserved c = true) : Inert c := by
  have hall : ∀ n, n < 127 → isUnreserved (Char.ofNat n) = true →
      ' ' < Char.ofNat n ∧ endsServer (Char.ofNat n) = false
        ∧ escapedInPath (Char.ofNat n) = false ∧ Char.ofNat n ≠ '%' := by
    decide
  have hc := hall c.toNat (toNat_lt_of_isUnreserved h)
  rw [Char.ofNat_toNat] at hc
  obtain ⟨hblank, hends, hescaped, hpercent⟩ := hc h
  exact ⟨hblank, hends, hescaped, hpercent⟩

/-! ## §2. Plain segments -/

/-- A segment that is sent as it is. -/
structure Plain (segment : List Char) : Prop where
  unreserved : ∀ c ∈ segment, isUnreserved c = true
  ne_nil : segment ≠ []
  not_here : segment ≠ ['.']
  not_up : segment ≠ ['.', '.']

instance (segment : List Char) : Decidable (Plain segment) :=
  decidable_of_iff (segment.all isUnreserved = true ∧ segment ≠ [] ∧ segment ≠ ['.']
      ∧ segment ≠ ['.', '.'])
    ⟨fun ⟨h, hnil, hhere, hup⟩ => ⟨List.all_eq_true.1 h, hnil, hhere, hup⟩,
      fun h => ⟨List.all_eq_true.2 h.unreserved, h.ne_nil, h.not_here, h.not_up⟩⟩

/-- The path of some segments. -/
def pathOf (segments : List (List Char)) : List Char :=
  segments.flatMap fun segment => '/' :: segment

theorem undotted_of_ne_percent {cs : List Char} (h : ∀ c ∈ cs, c ≠ '%') : undotted cs = cs := by
  induction cs with
  | nil => rfl
  | cons c cs ih =>
    have hc : c ≠ '%' := h c List.mem_cons_self
    have hcs : undotted cs = cs := ih fun d hd => h d (List.mem_cons_of_mem c hd)
    unfold undotted
    split
    · exact absurd (List.cons.inj ‹_›).1 hc
    · exact absurd (List.cons.inj ‹_›).1 hc
    · next heq =>
      obtain ⟨rfl, rfl⟩ := List.cons.inj heq
      rw [hcs]
    · next heq => cases heq

namespace Plain

variable {segment : List Char}

theorem inert (h : Plain segment) {c : Char} (hc : c ∈ segment) : Inert c :=
  inert_of_isUnreserved (h.unreserved c hc)

theorem undotted_eq (h : Plain segment) : undotted segment = segment :=
  undotted_of_ne_percent fun _ hc => (h.inert hc).ne_percent

theorem isHere_eq (h : Plain segment) : isHere segment = false := by
  rw [isHere, h.undotted_eq, beq_eq_false_iff_ne]
  exact h.not_here

theorem isUp_eq (h : Plain segment) : isUp segment = false := by
  rw [isUp, h.undotted_eq, beq_eq_false_iff_ne]
  exact h.not_up

theorem escape_eq (h : Plain segment) : escape escapedInPath segment = segment := by
  have hself : ∀ c ∈ segment, escapeChar escapedInPath c = [c] := by
    intro c hc
    rw [escapeChar, (h.inert hc).escapedInPath_eq]
    rfl
  rw [escape, List.flatMap_def, List.map_congr_left hself, ← List.flatMap_def,
    List.flatMap_singleton']

end Plain

/-! ## §3. The segments of a path -/

theorem segments_cons (c : Char) (cs : List Char) :
    segments (c :: cs) = if isSlash c then [] :: segments cs else
      match segments cs with
      | segment :: rest => (c :: segment) :: rest
      | [] => [[c]] := rfl

theorem segments_ne_nil (cs : List Char) : segments cs ≠ [] := by
  cases cs with
  | nil => exact List.cons_ne_nil _ _
  | cons c cs =>
    rw [segments_cons]
    split
    · exact List.cons_ne_nil _ _
    · split <;> exact List.cons_ne_nil _ _

/-- A slash separates the segments before it from those after it. -/
theorem segments_append (cs ds : List Char) :
    segments (cs ++ '/' :: ds) = segments cs ++ segments ds := by
  induction cs with
  | nil => rfl
  | cons c cs ih =>
    rw [List.cons_append, segments_cons, segments_cons, ih]
    split
    · rfl
    · cases hcs : segments cs with
      | nil => exact absurd hcs (segments_ne_nil cs)
      | cons segment rest => rfl

theorem segments_of_plain {segment : List Char} (h : Plain segment) :
    segments segment = [segment] := by
  have hslash : ∀ c ∈ segment, isSlash c = false :=
    fun _ hc => (h.inert hc).isSlash_eq
  clear h
  induction segment with
  | nil => rfl
  | cons c cs ih =>
    rw [segments_cons, hslash c List.mem_cons_self,
      ih fun d hd => hslash d (List.mem_cons_of_mem c hd)]
    rfl

/-- **The segments of a path are found again** behind its first slash. -/
theorem segments_pathOf {segment : List Char} {rest : List (List Char)} (h : Plain segment)
    (hrest : ∀ s ∈ rest, Plain s) : segments (segment ++ pathOf rest) = segment :: rest := by
  induction rest generalizing segment with
  | nil =>
    show segments (segment ++ []) = [segment]
    rw [List.append_nil, segments_of_plain h]
  | cons s rest ih =>
    show segments (segment ++ '/' :: (s ++ pathOf rest)) = segment :: s :: rest
    rw [segments_append, segments_of_plain h, ih (hrest s List.mem_cons_self)
      fun t ht => hrest t (List.mem_cons_of_mem s ht)]
    rfl

/-! ## §4. The path that is sent -/

/-- What has been walked does not depend on what comes, if anything does. -/
theorem walk_append (walked front : List (List Char)) :
    ∃ walked', ∀ rest, rest ≠ [] → walk walked (front ++ rest) = walk walked' rest := by
  induction front generalizing walked with
  | nil => exact ⟨walked, fun _ _ => rfl⟩
  | cons segment front ih =>
    obtain ⟨walked', hwalk⟩ := ih (if isUp segment then walked.drop 1
      else if isHere segment then walked else segment :: walked)
    refine ⟨walked', fun rest hrest => ?_⟩
    rw [← hwalk rest hrest]
    obtain ⟨next, others, hnext⟩ : ∃ next others, front ++ rest = next :: others :=
      List.exists_cons_of_ne_nil fun h => hrest (List.append_eq_nil_iff.1 h).2
    rw [List.cons_append, hnext, walk]
    · split
      · rfl
      · split <;> rfl
    · exact List.cons_ne_nil _ _

/-- Plain segments are walked one after the other. -/
theorem walk_of_plain {walked rest : List (List Char)} (h : ∀ s ∈ rest, Plain s) :
    walk walked rest = rest.reverse ++ walked := by
  induction rest generalizing walked with
  | nil => rfl
  | cons s rest ih =>
    have hs : Plain s := h s List.mem_cons_self
    have hnext : walk (s :: walked) rest = rest.reverse ++ s :: walked :=
      ih fun t ht => h t (List.mem_cons_of_mem s ht)
    have hreverse : (s :: rest).reverse ++ walked = rest.reverse ++ s :: walked := by
      rw [List.reverse_cons, List.append_assoc]
      rfl
    rw [hreverse]
    cases rest with
    | nil =>
      rw [walk, hs.isUp_eq, hs.isHere_eq]
      rfl
    | cons t rest =>
      rw [← hnext, walk, hs.isUp_eq, hs.isHere_eq]
      · rfl
      · exact List.cons_ne_nil _ _

/-- A path that is empty or starts with a slash. -/
def Rooted (path : List Char) : Prop :=
  ∀ c cs, path = c :: cs → isSlash c = true

/-- **Behind a path, plain segments are sent as they are**, whatever becomes of
    the path before them. -/
theorem sentPath_behind {front : List Char} (h : Rooted front) :
    ∃ root, sentPath (front ++ ['/']) = root ++ ['/']
      ∧ ∀ path, path ≠ [] → (∀ s ∈ path, Plain s) →
        sentPath (front ++ pathOf path) = root ++ pathOf path := by
  let sent (walked : List (List Char)) : List Char :=
    walked.reverse.flatMap fun segment => '/' :: escape escapedInPath segment
  -- The first slash is not part of a segment, whether it is that of `front` or the one behind.
  have hwalked : ∃ walked, ∀ cs,
      sentPath (front ++ '/' :: cs) = sent (walk walked (segments cs)) := by
    cases front with
    | nil => exact ⟨[], fun _ => rfl⟩
    | cons c front =>
      obtain ⟨walked, hwalk⟩ := walk_append [] (segments front)
      refine ⟨walked, fun cs => ?_⟩
      rw [← hwalk _ (segments_ne_nil cs), ← segments_append]
      show sent (walk [] (segments (if isSlash c then _ else _))) = _
      rw [if_pos (h c front rfl)]
      rfl
  obtain ⟨walked, hwalked⟩ := hwalked
  refine ⟨sent walked, ?_, fun path hne hplain => ?_⟩
  · rw [hwalked]
    show sent ([] :: walked) = sent walked ++ ['/']
    simp only [sent, List.reverse_cons, List.flatMap_append]
    rfl
  · obtain ⟨s, rest, rfl⟩ := List.exists_cons_of_ne_nil hne
    show sentPath (front ++ '/' :: (s ++ pathOf rest)) = _
    rw [hwalked, segments_pathOf (hplain s List.mem_cons_self)
      fun t ht => hplain t (List.mem_cons_of_mem s ht), walk_of_plain hplain]
    simp only [sent, List.reverse_append, List.reverse_reverse, List.flatMap_append]
    congr 1
    rw [pathOf, List.flatMap_def, List.flatMap_def]
    congr 1
    exact List.map_congr_left fun t ht => by rw [(hplain t ht).escape_eq]

/-! ## §5. The address of a path -/

section Lists

variable {α : Type} {p : α → Bool} {a : α}

/-- What a scan takes before an element that stops it. -/
theorem takeWhile_behind (h : p a = false) (xs ys : List α) :
    (xs ++ a :: ys).takeWhile p = xs.takeWhile p := by
  induction xs with
  | nil => exact List.takeWhile_cons_of_neg (Bool.eq_false_iff.1 h)
  | cons x xs ih => simp only [List.cons_append, List.takeWhile_cons, ih]

/-- What a scan leaves of a list with an element that stops it. -/
theorem dropWhile_behind (h : p a = false) (xs ys : List α) :
    (xs ++ a :: ys).dropWhile p = xs.dropWhile p ++ a :: ys := by
  induction xs with
  | nil => exact List.dropWhile_cons_of_neg (Bool.eq_false_iff.1 h)
  | cons x xs ih =>
    rw [List.cons_append, List.dropWhile_cons, List.dropWhile_cons, ih]
    split <;> rfl

end Lists

theorem afterWord?_behind {word : List Char} (h : '/' ∉ word) (cs ds : List Char) :
    afterWord? word (cs ++ '/' :: ds) = (afterWord? word cs).map (· ++ '/' :: ds) := by
  induction word generalizing cs with
  | nil => rfl
  | cons w word ih =>
    cases cs with
    | nil =>
      have hw : Char.toLower '/' ≠ w := fun heq => h (heq ▸ List.mem_cons_self)
      exact if_neg hw
    | cons c cs =>
      rw [List.cons_append, afterWord?, afterWord?, ih fun hmem => h (List.mem_cons_of_mem w hmem)]
      split <;> rfl

theorem scheme?_behind (cs ds : List Char) :
    scheme? (cs ++ '/' :: ds) = (scheme? cs).map fun found => (found.1, found.2 ++ '/' :: ds) := by
  rw [scheme?, scheme?, afterWord?_behind (by decide), afterWord?_behind (by decide)]
  cases afterWord? "http:".toList cs with
  | some rest => rfl
  | none => cases afterWord? "https:".toList cs <;> rfl

/-- What the characters of a text are that count: no tabs and no breaks of lines. -/
def counted (cs : List Char) : List Char :=
  cs.filter fun c => c ≠ '\t' ∧ c ≠ '\n' ∧ c ≠ '\r'

/-- The address that follows a scheme. -/
def afterScheme? (secure : Bool) (rest : List Char) : Option Url :=
  let rest := rest.dropWhile isSlash
  let tail := (rest.dropWhile fun c => !endsServer c).takeWhile (· ≠ '#')
  let path := sentPath (tail.takeWhile (· ≠ '?'))
  let query := sentQuery (tail.dropWhile (· ≠ '?'))
  (authority? secure (rest.takeWhile fun c => !endsServer c)).bind fun authority =>
    some { toAuthority := authority, secure, target := String.ofList (path ++ query) }

theorem ofText?_eq (text : String) :
    ofText? text = (scheme? (counted (trimmed text.toList))).bind fun found =>
      afterScheme? found.1 found.2 := rfl

section Behind

variable {front path : List Char}

/-- A path whose characters are slashes or are left alone. -/
structure Settled (path : List Char) : Prop where
  rooted : ∃ cs, path = '/' :: cs
  inert : ∀ c ∈ path, c = '/' ∨ Inert c

namespace Settled

theorem slash : Settled ['/'] :=
  ⟨⟨[], rfl⟩, fun _ hc => Or.inl (List.mem_singleton.1 hc)⟩

theorem pathOf {segments : List (List Char)} (hne : segments ≠ [])
    (h : ∀ s ∈ segments, Plain s) : Settled (pathOf segments) := by
  obtain ⟨s, rest, rfl⟩ := List.exists_cons_of_ne_nil hne
  refine ⟨⟨_, rfl⟩, fun c hc => ?_⟩
  obtain ⟨t, ht, hct⟩ := List.mem_flatMap.1 hc
  rcases List.mem_cons.1 hct with rfl | hct
  · exact Or.inl rfl
  · exact Or.inr ((h t ht).inert hct)

theorem blank_lt (h : Settled path) {c : Char} (hc : c ∈ path) : ' ' < c := by
  rcases h.inert c hc with rfl | hinert
  · decide
  · exact hinert.blank_lt

theorem counted_eq (h : Settled path) : counted path = path := by
  refine List.filter_eq_self.2 fun c hc => ?_
  have hblank : ' ' < c := h.blank_lt hc
  refine decide_eq_true ⟨?_, ?_, ?_⟩ <;>
    · rintro rfl
      exact absurd hblank (by decide)

theorem ne_of_mem (h : Settled path) {c : Char} (hc : c ∈ path) : c ≠ '?' ∧ c ≠ '#' := by
  rcases h.inert c hc with rfl | hinert
  · decide
  · have hends := hinert.endsServer_eq
    simp only [endsServer, Bool.or_eq_false_iff, beq_eq_false_iff_ne] at hends
    exact ⟨hends.1.2, hends.2⟩

end Settled

/-- Blanks around a text do not reach its path. -/
theorem trimmed_behind (h : Settled path) :
    trimmed (front ++ path) = front.dropWhile (· ≤ ' ') ++ path := by
  obtain ⟨cs, rfl⟩ := h.rooted
  obtain ⟨init, last, hends⟩ : ∃ init last, '/' :: cs = init ++ [last] :=
    ⟨_, _, (List.dropLast_concat_getLast (List.cons_ne_nil '/' cs)).symm⟩
  have hlast : ' ' < last := h.blank_lt (by rw [hends]; exact List.mem_concat_self)
  rw [trimmed, dropWhile_behind (by decide), hends, ← List.append_assoc, List.reverse_append]
  show ((last :: _).dropWhile _).reverse = _
  rw [List.dropWhile_cons_of_neg (by simpa using hlast)]
  simp

theorem suffix_of_afterWord? {word cs rest : List Char} (h : afterWord? word cs = some rest) :
    rest <:+ cs := by
  induction word generalizing cs with
  | nil =>
    cases h
    exact List.suffix_refl _
  | cons w word ih =>
    cases cs with
    | nil => cases h
    | cons c cs =>
      rw [afterWord?] at h
      split at h
      · exact (ih h).trans (List.suffix_cons c cs)
      · cases h

theorem suffix_of_scheme? {cs : List Char} {found : Bool × List Char}
    (h : scheme? cs = some found) : found.2 <:+ cs := by
  rw [scheme?] at h
  split at h
  · next hword =>
    cases h
    exact suffix_of_afterWord? hword
  · obtain ⟨rest, hword, rfl⟩ := Option.map_eq_some_iff.1 h
    exact suffix_of_afterWord? hword

/-- The scan for a query or a fragment finds none. -/
theorem scan_ne {a : Char} {cs : List Char} (h : ∀ c ∈ cs, c ≠ a) :
    cs.takeWhile (fun c => decide (c ≠ a)) = cs ∧ cs.dropWhile (fun c => decide (c ≠ a)) = [] := by
  induction cs with
  | nil => exact ⟨rfl, rfl⟩
  | cons c cs ih =>
    have hc : decide (c ≠ a) = true := decide_eq_true (h c List.mem_cons_self)
    obtain ⟨htake, hdrop⟩ := ih fun d hd => h d (List.mem_cons_of_mem c hd)
    rw [List.takeWhile_cons, List.dropWhile_cons, hc, htake, hdrop]
    exact ⟨rfl, rfl⟩

/-- The address of a server with a path behind it. -/
theorem afterScheme?_named {secure : Bool} {rest : List Char} (hne : rest.dropWhile isSlash ≠ [])
    (hrest : ∀ c ∈ rest, c ≠ '?' ∧ c ≠ '#') (hpath : Settled path) :
    afterScheme? secure (rest ++ path)
      = (authority? secure ((rest.dropWhile isSlash).takeWhile fun c => !endsServer c)).bind
          fun authority => some {
            toAuthority := authority, secure
            target := String.ofList (sentPath
              (((rest.dropWhile isSlash).dropWhile fun c => !endsServer c) ++ path)) } := by
  have hscan : (rest ++ path).dropWhile isSlash = rest.dropWhile isSlash ++ path := by
    rw [List.dropWhile_append, if_neg (by simpa using hne)]
  have hclean : ∀ c ∈ ((rest.dropWhile isSlash).dropWhile fun c => !endsServer c) ++ path,
      c ≠ '?' ∧ c ≠ '#' := by
    intro c hc
    rcases List.mem_append.1 hc with hc | hc
    · exact hrest c ((List.dropWhile_suffix _).mem ((List.dropWhile_suffix _).mem hc))
    · exact hpath.ne_of_mem hc
  obtain ⟨hquery, hnone⟩ := scan_ne fun c hc => (hclean c hc).1
  obtain ⟨hfragment, -⟩ := scan_ne fun c hc => (hclean c hc).2
  obtain ⟨cs, rfl⟩ := hpath.rooted
  rw [afterScheme?, hscan, takeWhile_behind (p := fun c => !endsServer c) rfl,
    dropWhile_behind (p := fun c => !endsServer c) rfl]
  simp only [hfragment, hquery, hnone, sentQuery, List.append_nil]

/-- What follows a server is a path, if it has neither query nor fragment. -/
theorem afterScheme?_behind {secure : Bool} {rest : List Char} {u : Url}
    (hrest : ∀ c ∈ rest, c ≠ '?' ∧ c ≠ '#') (h : afterScheme? secure (rest ++ ['/']) = some u) :
    ∃ tail, Rooted tail ∧ ∀ path, Settled path →
      afterScheme? secure (rest ++ path)
        = some { u with target := String.ofList (sentPath (tail ++ path)) } := by
  -- Without a name there is no address, so the scan for slashes stops before the path.
  have hne : rest.dropWhile isSlash ≠ [] := by
    intro hnil
    rw [afterScheme?, List.dropWhile_append, hnil] at h
    cases h
  refine ⟨(rest.dropWhile isSlash).dropWhile fun c => !endsServer c, fun c cs hcs => ?_,
    fun path hpath => ?_⟩
  · have hends : endsServer c = true := by
      have hstop := List.head_dropWhile_not (p := fun c => !endsServer c)
        (w := by rw [hcs]; exact List.cons_ne_nil c cs)
      simpa only [hcs, List.head_cons, Bool.not_eq_false'] using hstop
    have hc : c ∈ rest := (List.dropWhile_suffix _).mem ((List.dropWhile_suffix _).mem
      (by rw [hcs]; exact List.mem_cons_self))
    simpa [endsServer, hrest c hc] using hends
  · rw [afterScheme?_named hne hrest Settled.slash] at h
    obtain ⟨authority, hauthority, hu⟩ := Option.bind_eq_some_iff.1 h
    cases hu
    rw [afterScheme?_named hne hrest hpath, hauthority]
    rfl

/-- **What is sent behind an address** without query and fragment is what is sent for
    the address itself, and then the path as it is. -/
theorem ofText?_behind {u : Url} (hfront : ∀ c ∈ front, c ≠ '?' ∧ c ≠ '#')
    (h : ofText? (String.ofList (front ++ ['/'])) = some u) :
    ∃ root, u.target = String.ofList (root ++ ['/'])
      ∧ ∀ path, path ≠ [] → (∀ s ∈ path, Plain s) →
        ofText? (String.ofList (front ++ pathOf path))
          = some { u with target := String.ofList (root ++ pathOf path) } := by
  have hscheme : ∀ path, Settled path → ofText? (String.ofList (front ++ path))
      = (scheme? (counted (front.dropWhile (· ≤ ' ')))).bind fun found =>
          afterScheme? found.1 (found.2 ++ path) := by
    intro path hpath
    obtain ⟨cs, rfl⟩ := hpath.rooted
    rw [ofText?_eq, String.toList_ofList, trimmed_behind hpath, counted, List.filter_append,
      ← counted, ← counted, hpath.counted_eq, scheme?_behind]
    cases scheme? (counted (front.dropWhile (· ≤ ' '))) <;> rfl
  rw [hscheme _ Settled.slash] at h
  obtain ⟨found, hfound, h⟩ := Option.bind_eq_some_iff.1 h
  have hrest : ∀ c ∈ found.2, c ≠ '?' ∧ c ≠ '#' := fun c hc =>
    hfront c ((List.dropWhile_suffix _).mem (List.mem_filter.1
      ((suffix_of_scheme? hfound).mem hc)).1)
  obtain ⟨tail, htail, hbehind⟩ := afterScheme?_behind hrest h
  obtain ⟨root, hroot, hsent⟩ := sentPath_behind htail
  refine ⟨root, ?_, fun path hne hplain => ?_⟩
  · have hu := h.symm.trans (hbehind _ Settled.slash)
    rw [hroot] at hu
    exact congrArg Url.target (Option.some.inj hu)
  · have hsettled : Settled (pathOf path) := Settled.pathOf hne hplain
    rw [hscheme _ hsettled, hfound]
    show afterScheme? found.1 (found.2 ++ pathOf path) = _
    rw [hbehind _ hsettled, hsent path hne hplain]

end Behind

end LoggingOperator.Http.Url
