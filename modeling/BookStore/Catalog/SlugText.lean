import BookStore.Catalog.Slugs
import BookStore.Text
import Mathlib.Data.List.Chain

/-!
# The texts that are slugs

`generateSlug` rewrites a text pass by pass.  From the last passes on, a text is `Hyphenated`:
its characters are `[a-z0-9]` and hyphens, no two hyphens side by side and none at an end.

* `isSlug_iff_hyphenated`: these are the texts of runs joined by single hyphens.
* `hyphenated_passes`: the last passes end there, whatever they start from.
* `generateSlug_eq_of_hyphenated`: every pass leaves such a text as it is.
* `generateSlug_normal`: so `generateSlug` ends in a slug and does nothing to one.
-/

namespace BookStore
namespace BookCreation

/-- Runs of `[a-z0-9]` with a hyphen between two of them -/
def IsSlug (s : List Char) : Prop :=
  ∃ runs : List (List Char), runs ≠ [] ∧
    (∀ run, run ∈ runs → run ≠ [] ∧ ∀ c, c ∈ run → isSlugChar c = true) ∧
    s = List.intercalate ['-'] runs

/-- `[a-z0-9-]` -/
def InSlug (c : Char) : Prop :=
  isSlugChar c = true ∨ c = '-'

def isDash (c : Char) : Bool :=
  decide (c = '-')

/-- Hyphens only between two other characters -/
structure Hyphenated (s : List Char) : Prop where
  chars : ∀ c, c ∈ s → InSlug c
  apart : s.IsChain fun c d => ¬(c = '-' ∧ d = '-')
  start : s.dropWhile isDash = s
  stop : s.rdropWhile isDash = s

theorem not_isSlugChar_dash : isSlugChar '-' = false := by
  decide

/-! ### What each pass leaves -/

theorem inSlug_dashed (s : List Char) : ∀ c, c ∈ dashed s → InSlug c := by
  induction s with
  | nil =>
      intro c hc
      cases hc
  | cons d s ih =>
      intro c hc
      rw [dashed] at hc
      split at hc
      case isTrue hd =>
        rcases List.mem_cons.mp hc with rfl | hc
        · exact .inl hd
        · exact ih c hc
      case isFalse hd =>
        split at hc
        case h_1 rest hrest =>
          exact ih c (hrest ▸ hc)
        case h_2 =>
          rcases List.mem_cons.mp hc with rfl | hc
          · exact .inr rfl
          · exact ih c hc

theorem head?_collapseDashes (s : List Char) : (collapseDashes s).head? = s.head? := by
  induction s with
  | nil =>
      rfl
  | cons c s ih =>
      rw [collapseDashes]
      split
      case isTrue h =>
        rw [ih, h.2, h.1, List.head?_cons]
      case isFalse =>
        rfl

theorem collapseDashes_sublist (s : List Char) : (collapseDashes s).Sublist s := by
  induction s with
  | nil =>
      exact List.Sublist.refl _
  | cons c s ih =>
      rw [collapseDashes]
      split
      · exact ih.cons c
      · exact ih.cons_cons c

theorem isChain_collapseDashes (s : List Char) :
    (collapseDashes s).IsChain fun c d => ¬(c = '-' ∧ d = '-') := by
  induction s with
  | nil =>
      exact List.IsChain.nil
  | cons c s ih =>
      rw [collapseDashes]
      split
      case isTrue =>
        exact ih
      case isFalse h =>
        refine List.isChain_cons.mpr ⟨fun d hd hboth => h ?_, ih⟩
        rw [head?_collapseDashes] at hd
        exact ⟨hboth.1, hboth.2 ▸ hd⟩

theorem stripDashes_eq (s : List Char) : stripDashes s = (s.dropWhile isDash).rdropWhile isDash :=
  rfl

/-- What is taken off at the two ends -/
theorem stripDashes_between (s : List Char) : ∃ a b, a ++ stripDashes s ++ b = s :=
  (List.rdropWhile_prefix isDash _).isInfix.trans (List.dropWhile_suffix isDash).isInfix

theorem hyphenated_passes (s : List Char) :
    Hyphenated (stripDashes (collapseDashes (dashed s))) := by
  obtain ⟨a, b, hbetween⟩ := stripDashes_between (collapseDashes (dashed s))
  have hapart := isChain_collapseDashes (dashed s)
  rw [← hbetween] at hapart
  refine ⟨fun c hc => ?_, hapart.left_of_append.right_of_append,
    dropWhile_rdropWhile_dropWhile isDash _, List.rdropWhile_idempotent isDash _⟩
  refine inSlug_dashed s c ((collapseDashes_sublist _).subset ?_)
  rw [← hbetween]
  exact List.mem_append_left _ (List.mem_append_right _ hc)

/-! ### Texts joined by hyphens -/

theorem last_ne_dash {s : List Char} (hstop : s.rdropWhile isDash = s) (hs : s ≠ []) :
    s.getLast hs ≠ '-' := by
  have := List.rdropWhile_eq_self_iff.mp hstop hs
  simpa [isDash] using this

theorem stop_cons {c : Char} {s : List Char} (hs : s ≠ []) :
    (c :: s).rdropWhile isDash = c :: s ↔ s.rdropWhile isDash = s := by
  rw [List.rdropWhile_eq_self_iff, List.rdropWhile_eq_self_iff]
  constructor
  · intro h hs
    have := h (List.cons_ne_nil c s)
    rwa [List.getLast_cons hs] at this
  · intro h hcons
    rw [List.getLast_cons hs]
    exact h hs

theorem IsSlug.ne_nil {s : List Char} (h : IsSlug s) : s ≠ [] := by
  obtain ⟨runs, hne, hruns, rfl⟩ := h
  obtain ⟨run, runs, rfl⟩ := List.exists_cons_of_ne_nil hne
  obtain ⟨c, run, rfl⟩ := List.exists_cons_of_ne_nil (hruns run List.mem_cons_self).1
  cases runs <;> simp

theorem IsSlug.single {c : Char} (hc : isSlugChar c = true) : IsSlug [c] :=
  ⟨[[c]], by simp, by simpa using hc, by simp⟩

/-- A character before the first run -/
theorem IsSlug.cons {c : Char} {s : List Char} (hc : isSlugChar c = true) (h : IsSlug s) :
    IsSlug (c :: s) := by
  obtain ⟨runs, hne, hruns, rfl⟩ := h
  obtain ⟨run, runs, rfl⟩ := List.exists_cons_of_ne_nil hne
  refine ⟨(c :: run) :: runs, List.cons_ne_nil _ _, ?_, ?_⟩
  · intro r hr
    rcases List.mem_cons.mp hr with rfl | hr
    · refine ⟨List.cons_ne_nil _ _, fun d hd => ?_⟩
      rcases List.mem_cons.mp hd with rfl | hd
      · exact hc
      · exact (hruns run List.mem_cons_self).2 d hd
    · exact hruns r (List.mem_cons_of_mem _ hr)
  · cases runs <;> simp

/-- A run of its own before the first run -/
theorem IsSlug.hyphen {c : Char} {s : List Char} (hc : isSlugChar c = true) (h : IsSlug s) :
    IsSlug (c :: '-' :: s) := by
  obtain ⟨runs, hne, hruns, rfl⟩ := h
  refine ⟨[c] :: runs, List.cons_ne_nil _ _, ?_, ?_⟩
  · intro r hr
    rcases List.mem_cons.mp hr with rfl | hr
    · exact ⟨List.cons_ne_nil _ _, by simpa using hc⟩
    · exact hruns r hr
  · obtain ⟨run, runs, rfl⟩ := List.exists_cons_of_ne_nil hne
    simp

/-- Without the condition on its start, a text may have one hyphen in front. -/
theorem isSlug_or_dash
    {s : List Char} (hchars : ∀ c, c ∈ s → InSlug c)
    (hapart : s.IsChain fun c d => ¬(c = '-' ∧ d = '-'))
    (hstop : s.rdropWhile isDash = s) :
    s = [] ∨ IsSlug s ∨ ∃ t, s = '-' :: t ∧ IsSlug t := by
  induction s with
  | nil =>
      exact .inl rfl
  | cons c s ih =>
      have hlater : s = [] ∨ IsSlug s ∨ ∃ t, s = '-' :: t ∧ IsSlug t := by
        rcases eq_or_ne s [] with rfl | hs
        · exact .inl rfl
        · exact ih (fun d hd => hchars d (List.mem_cons_of_mem _ hd)) hapart.tail
            ((stop_cons hs).mp hstop)
      refine .inr ?_
      rcases hchars c List.mem_cons_self with hc | rfl
      · refine .inl ?_
        rcases hlater with rfl | hslug | ⟨t, rfl, hslug⟩
        · exact .single hc
        · exact .cons hc hslug
        · exact .hyphen hc hslug
      · rcases hlater with rfl | hslug | ⟨t, rfl, hslug⟩
        · exact absurd rfl (last_ne_dash hstop (List.cons_ne_nil _ _))
        · exact .inr ⟨s, rfl, hslug⟩
        · exact absurd ⟨rfl, rfl⟩ (List.isChain_cons_cons.mp hapart).1

theorem Hyphenated.head_ne {c : Char} {s : List Char} (h : Hyphenated (c :: s)) : c ≠ '-' := by
  intro hc
  have hstart := congrArg List.length h.start
  rw [List.dropWhile_cons_of_pos (by rw [hc, isDash]; decide), List.length_cons] at hstart
  have := (List.dropWhile_sublist isDash (l := s)).length_le
  omega

theorem Hyphenated.isSlug {s : List Char} (h : Hyphenated s) : s = [] ∨ IsSlug s := by
  rcases isSlug_or_dash h.chars h.apart h.stop with hnil | hslug | ⟨t, rfl, -⟩
  · exact .inl hnil
  · exact .inr hslug
  · exact absurd rfl h.head_ne

theorem hyphenated_nil : Hyphenated [] :=
  ⟨fun c hc => (by cases hc), List.IsChain.nil, rfl, rfl⟩

theorem isDash_of_isSlugChar {c : Char} (hc : isSlugChar c = true) : isDash c = false := by
  refine decide_eq_false fun h => ?_
  rw [h, not_isSlugChar_dash] at hc
  cases hc

theorem Hyphenated.cons {c : Char} {s : List Char} (hc : isSlugChar c = true)
    (h : Hyphenated s) : Hyphenated (c :: s) where
  chars := fun d hd => (List.mem_cons.mp hd).elim (fun e => .inl (e ▸ hc)) (h.chars d)
  apart := List.isChain_cons.mpr
    ⟨fun _ _ hboth => of_decide_eq_false (isDash_of_isSlugChar hc) hboth.1, h.apart⟩
  start := List.dropWhile_cons_of_neg (by rw [isDash_of_isSlugChar hc]; decide)
  stop := by
    rcases eq_or_ne s [] with rfl | hs
    · rw [List.rdropWhile_singleton, isDash_of_isSlugChar hc]
      rfl
    · exact (stop_cons hs).mpr h.stop

/-- A hyphen between a character and a text that has one -/
theorem Hyphenated.hyphen {c : Char} {s : List Char} (hc : isSlugChar c = true)
    (hs : s ≠ []) (h : Hyphenated s) : Hyphenated (c :: '-' :: s) where
  chars := fun d hd => (List.mem_cons.mp hd).elim (fun e => .inl (e ▸ hc)) fun hd =>
    (List.mem_cons.mp hd).elim .inr (h.chars d)
  apart := by
    refine List.isChain_cons_cons.mpr
      ⟨fun hboth => of_decide_eq_false (isDash_of_isSlugChar hc) hboth.1,
        List.isChain_cons.mpr ⟨fun d hd hboth => ?_, h.apart⟩⟩
    obtain ⟨e, s, rfl⟩ := List.exists_cons_of_ne_nil hs
    rw [List.head?_cons, Option.mem_def, Option.some_inj] at hd
    exact h.head_ne (hd.trans hboth.2)
  start := List.dropWhile_cons_of_neg (by rw [isDash_of_isSlugChar hc]; decide)
  stop := (stop_cons (List.cons_ne_nil _ _)).mpr ((stop_cons hs).mpr h.stop)

/-- A run before a text that has a run -/
theorem Hyphenated.run {run s : List Char} (hne : run ≠ [])
    (hrun : ∀ c, c ∈ run → isSlugChar c = true) (hs : s ≠ []) (h : Hyphenated s) :
    Hyphenated (run ++ '-' :: s) := by
  induction run with
  | nil =>
      exact absurd rfl hne
  | cons c run ih =>
      have hc := hrun c List.mem_cons_self
      rcases eq_or_ne run [] with rfl | hrest
      · exact h.hyphen hc hs
      · exact (ih hrest fun d hd => hrun d (List.mem_cons_of_mem _ hd)).cons hc

theorem hyphenated_run {run : List Char} (hrun : ∀ c, c ∈ run → isSlugChar c = true) :
    Hyphenated run := by
  induction run with
  | nil =>
      exact hyphenated_nil
  | cons c run ih =>
      exact (ih fun d hd => hrun d (List.mem_cons_of_mem _ hd)).cons (hrun c List.mem_cons_self)

theorem IsSlug.hyphenated {s : List Char} (h : IsSlug s) : Hyphenated s := by
  obtain ⟨runs, hne, hruns, rfl⟩ := h
  induction runs with
  | nil =>
      exact absurd rfl hne
  | cons run runs ih =>
      have hrun := hruns run List.mem_cons_self
      have hlater : ∀ r, r ∈ runs → r ≠ [] ∧ ∀ c, c ∈ r → isSlugChar c = true :=
        fun r hr => hruns r (List.mem_cons_of_mem _ hr)
      rcases eq_or_ne runs [] with rfl | hrest
      · rw [List.intercalate_singleton]
        exact hyphenated_run hrun.2
      · rw [List.intercalate_cons_of_ne_nil hrest, List.append_assoc, List.singleton_append]
        exact (ih hrest hlater).run hrun.1 hrun.2 (IsSlug.ne_nil ⟨runs, hrest, hlater, rfl⟩)

theorem isSlug_iff_hyphenated {s : List Char} : s = [] ∨ IsSlug s ↔ Hyphenated s := by
  constructor
  · rintro (rfl | h)
    · exact hyphenated_nil
    · exact h.hyphenated
  · exact Hyphenated.isSlug

/-! ### What no pass changes -/

theorem dashed_eq {s : List Char} (h : Hyphenated s) : dashed s = s := by
  obtain ⟨hchars, hapart, -, -⟩ := h
  induction s with
  | nil =>
      rfl
  | cons c s ih =>
      have ih := ih (fun d hd => hchars d (List.mem_cons_of_mem _ hd)) hapart.tail
      rw [dashed, ih]
      rcases hchars c List.mem_cons_self with hc | rfl
      · rw [if_pos hc]
      · rw [if_neg (by rw [not_isSlugChar_dash]; decide)]
        split
        case h_1 rest =>
          exact absurd ⟨rfl, rfl⟩ (List.isChain_cons_cons.mp hapart).1
        case h_2 =>
          rfl

theorem collapseDashes_eq {s : List Char} (h : s.IsChain fun c d => ¬(c = '-' ∧ d = '-')) :
    collapseDashes s = s := by
  induction s with
  | nil =>
      rfl
  | cons c s ih =>
      rw [collapseDashes, ih h.tail, if_neg]
      rintro ⟨hc, hs⟩
      exact (List.isChain_cons.mp h).1 '-' hs ⟨hc, rfl⟩

theorem stripDashes_hyphenated {s : List Char} (h : Hyphenated s) : stripDashes s = s := by
  rw [stripDashes_eq, h.start, h.stop]

theorem InSlug.ascii {c : Char} (h : InSlug c) : 45 ≤ c.toNat ∧ c.toNat ≤ 122 := by
  rcases h with h | rfl
  · simp only [isSlugChar, Char.isDigit, Bool.or_eq_true, Bool.and_eq_true,
      decide_eq_true_eq] at h
    rcases h with ⟨hlow, hhigh⟩ | ⟨hlow, hhigh⟩
    · have hlow : 97 ≤ c.toNat := UInt32.le_iff_toNat_le.mp hlow
      have hhigh : c.toNat ≤ 122 := UInt32.le_iff_toNat_le.mp hhigh
      omega
    · have hlow : 48 ≤ c.toNat := UInt32.le_iff_toNat_le.mp hlow
      have hhigh : c.toNat ≤ 57 := UInt32.le_iff_toNat_le.mp hhigh
      omega
  · decide

theorem InSlug.not_isWhiteSpace {c : Char} (h : InSlug c) : isWhiteSpace c = false := by
  have := h.ascii
  simp only [isWhiteSpace, List.mem_cons, List.not_mem_nil, or_false, Bool.or_eq_false_iff,
    decide_eq_false_iff_not]
  omega

theorem InSlug.not_isCombining {c : Char} (h : InSlug c) : isCombining c = false := by
  have := h.ascii
  rw [isCombining, decide_eq_false_iff_not]
  omega

theorem trim_eq {s : String} (h : ∀ c, c ∈ s.toList → InSlug c) : trim s = s := by
  have hstart : s.toList.dropWhile isWhiteSpace = s.toList :=
    List.dropWhile_eq_self_iff.mpr fun hl => by
      rw [(h _ (List.getElem_mem hl)).not_isWhiteSpace]
      decide
  have hstop : s.toList.rdropWhile isWhiteSpace = s.toList :=
    List.rdropWhile_eq_self_iff.mpr fun hl => by
      rw [(h _ (List.getLast_mem hl)).not_isWhiteSpace]
      decide
  have hdef : trim s =
      String.ofList ((s.toList.dropWhile isWhiteSpace).rdropWhile isWhiteSpace) := rfl
  rw [hdef, hstart, hstop, String.ofList_toList]

theorem replaced_eq {c d : Char} {s : List Char} (h : c ∉ s) : replaced c d s = s := by
  rw [replaced]
  refine (List.map_congr_left fun x hx => ?_).trans (List.map_id s)
  have hne : x ≠ c := fun e => h (e ▸ hx)
  rw [if_neg hne, id_eq]

/-- A character that ASCII does not have -/
theorem not_mem_slug {c : Char} {s : List Char} (hc : 122 < c.toNat)
    (h : ∀ d, d ∈ s → InSlug d) : c ∉ s := by
  intro hmem
  have := (h c hmem).ascii
  omega

theorem generateSlug_eq_of_hyphenated
    {js : JsText}
    (hnfd : ∀ s : String, (∀ c, c ∈ s.toList → InSlug c) → js.nfd s = s)
    (hlower : ∀ s : String, (∀ c, c ∈ s.toList → InSlug c) → js.toLowerCase s = s)
    {s : String} (h : Hyphenated s.toList) :
    generateSlug js s = s := by
  have hunmarked : (s.toList.filter fun c => !isCombining c) = s.toList :=
    List.filter_eq_self.mpr fun c hc => by
      rw [(h.chars c hc).not_isCombining]
      rfl
  have hsmall : replaced 'đ' 'd' s.toList = s.toList :=
    replaced_eq (not_mem_slug (by decide) h.chars)
  have hlarge : replaced 'Đ' 'D' s.toList = s.toList :=
    replaced_eq (not_mem_slug (by decide) h.chars)
  rw [generateSlug, trim_eq h.chars, hnfd s h.chars, hunmarked, hsmall, hlarge,
    String.ofList_toList, hlower s h.chars, dashed_eq h, collapseDashes_eq h.apart,
    stripDashes_hyphenated h, String.ofList_toList]

/-! ### The whole function -/

theorem hyphenated_generateSlug (js : JsText) (value : String) :
    Hyphenated (generateSlug js value).toList := by
  rw [generateSlug, String.toList_ofList]
  exact hyphenated_passes _

/-- The slugs, and the empty text, are what it leaves alone. -/
theorem generateSlug_eq_iff
    {js : JsText}
    (hnfd : ∀ s : String, (∀ c, c ∈ s.toList → InSlug c) → js.nfd s = s)
    (hlower : ∀ s : String, (∀ c, c ∈ s.toList → InSlug c) → js.toLowerCase s = s)
    {s : String} :
    generateSlug js s = s ↔ s.toList = [] ∨ IsSlug s.toList := by
  rw [isSlug_iff_hyphenated]
  constructor
  · intro h
    rw [← h]
    exact hyphenated_generateSlug js s
  · exact generateSlug_eq_of_hyphenated hnfd hlower

/-- `generateSlug` returns a slug or nothing, and a second time it returns the same. -/
theorem generateSlug_normal
    {js : JsText}
    (hnfd : ∀ s : String, (∀ c, c ∈ s.toList → InSlug c) → js.nfd s = s)
    (hlower : ∀ s : String, (∀ c, c ∈ s.toList → InSlug c) → js.toLowerCase s = s)
    (value : String) :
    (generateSlug js value = "" ∨ IsSlug (generateSlug js value).toList) ∧
      generateSlug js (generateSlug js value) = generateSlug js value := by
  have hslug := hyphenated_generateSlug js value
  refine ⟨?_, generateSlug_eq_of_hyphenated hnfd hlower hslug⟩
  rcases hslug.isSlug with hnil | hslug
  · exact .inl (String.toList_eq_nil_iff.mp hnil)
  · exact .inr hslug

theorem InSlug.toLower {c : Char} (h : InSlug c) : c.toLower = c := by
  rcases h with h | rfl
  · simp only [isSlugChar, Char.isDigit, Bool.or_eq_true, Bool.and_eq_true,
      decide_eq_true_eq] at h
    refine dif_neg ?_
    rintro ⟨hlow, hhigh⟩
    have hlow : 65 ≤ c.toNat := UInt32.le_iff_toNat_le.mp hlow
    have hhigh : c.toNat ≤ 90 := UInt32.le_iff_toNat_le.mp hhigh
    rcases h with ⟨hsmall, -⟩ | ⟨-, hdigit⟩
    · have hsmall : 97 ≤ c.toNat := UInt32.le_iff_toNat_le.mp hsmall
      omega
    · have hdigit : c.toNat ≤ 57 := UInt32.le_iff_toNat_le.mp hdigit
      omega
  · rfl

theorem sampleJs_toLowerCase {s : String} (h : ∀ c, c ∈ s.toList → InSlug c) :
    sampleJs.toLowerCase s = s := by
  have hmap : s.toList.map Char.toLower = s.toList :=
    (List.map_congr_left fun c hc => (h c hc).toLower).trans (List.map_id' _)
  change String.ofList (s.toList.map Char.toLower) = s
  rw [hmap, String.ofList_toList]

theorem generateSlug_normal_cleanCode :
    generateSlug sampleJs " Clean -- Code: 2nd! " = "clean-code-2nd" ∧
      generateSlug sampleJs "clean-code-2nd" = "clean-code-2nd" := by
  have hvalue : generateSlug sampleJs " Clean -- Code: 2nd! " = "clean-code-2nd" := by
    decide +kernel
  have hnfd : ∀ s : String, (∀ c, c ∈ s.toList → InSlug c) → sampleJs.nfd s = s :=
    fun _ _ => rfl
  have hagain := (generateSlug_normal hnfd (fun _ => sampleJs_toLowerCase)
    " Clean -- Code: 2nd! ").2
  rw [hvalue] at hagain
  exact ⟨hvalue, hagain⟩

end BookCreation
end BookStore
