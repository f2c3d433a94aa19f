import Mathlib
import PadScribe.Proofs.Cutting
import PadScribe.Speech.CaseStyle

/-!
# `Proofs.Recasing` — camel and snake case, written again

Both styles cut words into parts and put the parts into one word, and that word is cut again when a style is applied
to it. A word in camel case may come apart into other parts than it was put together from, since nothing separates a
part that ends with a capital from the next one. But all its parts except the first begin with a capital, and camel
case leaves such parts alone. A word in snake case has an underscore between any two parts and no capitals, and comes
apart into the same parts in lower case. Parts of two small letters or more still end small once they begin with a
capital, so that camel case loses none of them.

Words are of plain characters here: these have one character in either letter case, and none becomes a separator.

## Contents

* `Text.lower_plain` — plain characters in lower case
* `humps_eq_splitBy`, `humps_capital`, `humps_small` — the humps of a text
* `Plain`, `Inner` — plain words and the characters in their parts
* `toCamel_plain`, `toSnake_plain` — the styles on plain words
* `parts_toCamel`, `parts_toSnake` — a word in a style, cut again
* `cameled_humps`, `humps_cameled` — humps put together and words cut at their humps
* `camel_and_snake` — the styles written again
-/

namespace PadScribe

namespace Text

/-! ## Plain characters -/

/-- What holds of the first 128 characters holds of every plain one. -/
theorem plain_forall {P : Char → Prop} (h : ∀ n < 0x80, P (Char.ofNat n)) {c : Char} (hc : c.toNat < 0x80) : P c := by
  rw [← Char.ofNat_toNat c]
  exact h c.toNat hc

theorem lowerFrom_plain {s : List Char} (hs : ∀ c ∈ s, c.toNat < 0x80) (before : List Char) :
    lowerFrom before s = s.map Char.toLower := by
  induction s generalizing before with
  | nil => rfl
  | cons c s ih =>
      have hc : c.toNat < 0x80 := hs c List.mem_cons_self
      have hsigma : c ≠ 'Σ' := by
        rintro rfl
        exact absurd hc (by decide)
      rw [lowerFrom, if_neg hsigma, ih fun d hd => hs d (List.mem_cons_of_mem c hd)]
      simp [lowerChar, hc]

/-- **Plain characters go to lower case one by one.** -/
theorem lower_plain {s : List Char} (hs : ∀ c ∈ s, c.toNat < 0x80) :
    lower (String.ofList s) = String.ofList (s.map Char.toLower) := by
  rw [lower, String.toList_ofList, lowerFrom_plain hs]

end Text

namespace CaseStyle

open Text (chunks plain_forall)

variable {words : List String}

/-- Cutting a text at its humps is the library's. -/
theorem humps_eq_splitBy (s : List Char) : humps s = s.splitBy fun c d => !isHump c d := by
  fun_induction humps s with
  | case1 => rfl
  | case2 c => rfl
  | case3 c d rest hhump ih =>
      have hcut := List.splitBy_append_cons (r := fun c d => !isHump c d) (l := [c]) (a := d) rest (by simp [hhump])
      rw [ih]
      exact hcut.symm
  | case4 c d rest hhump hnone ih =>
      rw [hnone] at ih
      exact absurd ih.symm (List.splitBy_ne_nil.mpr (by simp))
  | case5 c d rest hhump p ps hsome ih =>
      rw [hsome] at ih
      obtain ⟨hflat, hne, hwithin, hbetween⟩ := List.splitBy_eq_iff.mp ih.symm
      -- the first part grows by a character in front, and what it ends with stays
      symm
      rw [List.splitBy_eq_iff]
      cases p with
      | nil => exact absurd List.mem_cons_self hne
      | cons e p =>
          obtain rfl : d = e := (List.cons.inj hflat).1
          refine ⟨congrArg (c :: ·) hflat, ?_, ?_, ?_⟩
          · simpa using hne
          · intro m hm
            rcases List.mem_cons.mp hm with rfl | hm
            · exact List.isChain_cons_cons.mpr ⟨by simpa using hhump, hwithin _ List.mem_cons_self⟩
            · exact hwithin m (List.mem_cons_of_mem _ hm)
          · rw [List.isChain_cons] at hbetween ⊢
            refine ⟨fun q hq => ?_, hbetween.2⟩
            obtain ⟨hp, hq', hcut⟩ := hbetween.1 q hq
            exact ⟨by simp, hq', by simpa using hcut⟩

/-- Humps hold what the text holds, and none is empty. -/
theorem mem_humps {s p : List Char} (hp : p ∈ humps s) : p ≠ [] ∧ ∀ c ∈ p, c ∈ s := by
  rw [humps_eq_splitBy] at hp
  refine ⟨fun hnil => List.nil_notMem_splitBy _ s (hnil ▸ hp), fun c hc => ?_⟩
  rw [← List.flatten_splitBy (fun c d => !isHump c d) s]
  exact List.mem_flatten.mpr ⟨p, hp, hc⟩

/-- No hump begins inside a text without capitals after its first character. -/
theorem chain_small {s : List Char} (hs : ∀ c ∈ s.tail, c.isUpper = false) :
    s.IsChain fun c d => (!isHump c d) = true := by
  cases s with
  | nil => exact List.isChain_nil
  | cons c rest =>
      have hno : ∀ b, ∀ d ∈ rest, (!isHump b d) = true := fun b d hd => by simp [isHump, hs d hd]
      exact List.isChain_cons.mpr ⟨fun d hd => hno c d (List.mem_of_mem_head? hd),
        List.Pairwise.isChain (List.pairwise_of_forall_mem_list fun b _ d hd => hno b d hd)⟩

/-- A text without capitals has one hump. -/
theorem humps_small {s : List Char} (hne : s ≠ []) (hs : ∀ c ∈ s, c.isUpper = false) : humps s = [s] := by
  rw [humps_eq_splitBy]
  exact List.splitBy_of_isChain hne (chain_small fun c hc => hs c (List.mem_of_mem_tail hc))

/-- Every hump but the first begins with a capital. -/
theorem humps_capital {s p : List Char} {ps : List (List Char)} (hs : humps s = p :: ps) :
    ∀ q ∈ ps, ∃ c rest, q = c :: rest ∧ c.isUpper = true := by
  have hcut := List.isChain_getLast_head_splitBy (fun c d => !isHump c d) s
  rw [← humps_eq_splitBy, hs] at hcut
  clear hs
  induction ps generalizing p with
  | nil => simp
  | cons q ps ih =>
      obtain ⟨⟨hp, hq, hhump⟩, hrest⟩ := List.isChain_cons_cons.mp hcut
      intro r hr
      rcases List.mem_cons.mp hr with rfl | hr
      · obtain ⟨c, rest, rfl⟩ := List.exists_cons_of_ne_nil hq
        exact ⟨c, rest, rfl, by simp [isHump] at hhump; exact hhump.2⟩
      · exact ih hrest r hr

/-! ## The parts of plain words -/

/-- Words of plain characters. -/
def Plain (words : List String) : Prop :=
  ∀ w ∈ words, ∀ c ∈ w.toList, c.toNat < 0x80

/-- A plain character that may stand in a part. -/
structure Inner (c : Char) : Prop where
  plain : c.toNat < 0x80
  inside : isSeparator c = false

instance (c : Char) : Decidable (Inner c) :=
  decidable_of_iff (c.toNat < 0x80 ∧ isSeparator c = false) ⟨fun h => ⟨h.1, h.2⟩, fun h => ⟨h.plain, h.inside⟩⟩

theorem Inner.toLower {c : Char} (h : Inner c) : Inner c.toLower :=
  plain_forall (P := fun c => Inner c → Inner c.toLower) (by decide +kernel) h.plain h

theorem Inner.toUpper {c : Char} (h : Inner c) : Inner c.toUpper :=
  plain_forall (P := fun c => Inner c → Inner c.toUpper) (by decide +kernel) h.plain h

/-- Parts hold what the words hold apart from separators, and none is empty. -/
theorem mem_parts {p : List Char} (hp : p ∈ parts words) :
    p ≠ [] ∧ ∀ c ∈ p, isSeparator c = false ∧ ∃ w ∈ words, c ∈ w.toList := by
  obtain ⟨chunk, hchunk, hhump⟩ := List.mem_flatMap.mp hp
  obtain ⟨hne, hfrom⟩ := mem_humps hhump
  refine ⟨hne, fun c hc => ?_⟩
  obtain ⟨hinside, hjoined⟩ := (Text.mem_chunks hchunk).2 c (hfrom c hc)
  rw [String.toList_intercalate] at hjoined
  rcases Text.mem_intercalate hjoined with rfl | ⟨q, hq, hmem⟩
  · exact absurd hinside (by decide)
  · obtain ⟨w, hw, rfl⟩ := List.mem_map.mp hq
    exact ⟨hinside, w, hw, hmem⟩

theorem parts_inner (h : Plain words) {p : List Char} (hp : p ∈ parts words) : ∀ c ∈ p, Inner c := by
  intro c hc
  obtain ⟨hinside, w, hw, hmem⟩ := (mem_parts hp).2 c hc
  exact ⟨h w hw c hmem, hinside⟩

/-- The parts of one word without separators are its humps. -/
theorem parts_single {s : List Char} (hs : ∀ c ∈ s, isSeparator c = false) : parts [String.ofList s] = humps s := by
  unfold parts
  rw [String.toList_intercalate, List.map_singleton, List.intercalate_singleton, String.toList_ofList]
  cases s with
  | nil => rfl
  | cons c s =>
      have hchunk : chunks isSeparator ([' '].intercalate [c :: s]) = [c :: s] :=
        Text.chunks_intercalate (by decide) (by simp) (by simpa using hs)
      rw [List.intercalate_singleton] at hchunk
      rw [hchunk, List.flatMap_singleton]

/-! ## The styles on plain words -/

/-- Parts in one, as camel case writes them. -/
def cameled : List (List Char) → List Char
  | [] => []
  | p :: ps => p.modifyHead Char.toLower ++ ps.flatMap (List.modifyHead Char.toUpper)

/-- Parts in one, as snake case writes them. -/
def snaked (ps : List (List Char)) : List Char :=
  ['_'].intercalate (ps.map (List.map Char.toLower))

theorem lowerFirst_plain {p : List Char} (hp : ∀ c ∈ p, Inner c) : lowerFirst p = p.modifyHead Char.toLower := by
  cases p with
  | nil => rfl
  | cons c rest =>
      have hc : ∀ d ∈ [c], d.toNat < 0x80 := by simpa using (hp c List.mem_cons_self).plain
      rw [lowerFirst, Text.lower_plain hc, String.toList_ofList]
      rfl

theorem upperFirst_plain {p : List Char} (hp : ∀ c ∈ p, Inner c) : upperFirst p = p.modifyHead Char.toUpper := by
  cases p with
  | nil => rfl
  | cons c rest =>
      have hc : c.toNat < 0x80 := (hp c List.mem_cons_self).plain
      simp [upperFirst, Text.upperChar, hc]

theorem toCamel_plain (h : Plain words) : toCamel words = [String.ofList (cameled (parts words))] := by
  unfold toCamel
  split
  next hnone => rw [hnone]; rfl
  next p ps hsome =>
    have hinner : ∀ q ∈ p :: ps, ∀ c ∈ q, Inner c := fun q hq => parts_inner h (hsome ▸ hq)
    have htail : ps.flatMap upperFirst = ps.flatMap (List.modifyHead Char.toUpper) :=
      List.flatMap_congr fun q hq => upperFirst_plain (hinner q (List.mem_cons_of_mem p hq))
    rw [hsome, cameled, lowerFirst_plain (hinner p List.mem_cons_self), htail]

theorem toSnake_plain (h : Plain words) : toSnake words = [String.ofList (snaked (parts words))] := by
  have hlower : (parts words).map (fun p => Text.lower (String.ofList p))
      = (parts words).map fun p => String.ofList (p.map Char.toLower) :=
    List.map_congr_left fun p hp => Text.lower_plain fun c hc => (parts_inner h hp c hc).plain
  have hjoined : (String.intercalate "_" ((parts words).map fun p => String.ofList (p.map Char.toLower))).toList
      = snaked (parts words) := by
    simp [snaked, String.toList_intercalate, Function.comp_def]
  rw [toSnake, hlower, ← hjoined, String.ofList_toList]

/-- What a part with another first character holds is in the part or stands for its first character. -/
theorem modifyHead_inner {f : Char → Char} (hf : ∀ c, Inner c → Inner (f c)) {p : List Char}
    (hp : ∀ c ∈ p, Inner c) : ∀ c ∈ p.modifyHead f, Inner c := by
  cases p with
  | nil => simp
  | cons c rest =>
      rw [List.modifyHead_cons, List.forall_mem_cons]
      exact ⟨hf c (hp c List.mem_cons_self), fun d hd => hp d (List.mem_cons_of_mem c hd)⟩

theorem cameled_inner {ps : List (List Char)} (hps : ∀ p ∈ ps, ∀ c ∈ p, Inner c) : ∀ c ∈ cameled ps, Inner c := by
  cases ps with
  | nil => simp [cameled]
  | cons p ps =>
      intro c hc
      rcases List.mem_append.mp hc with hc | hc
      · exact modifyHead_inner (fun _ => Inner.toLower) (hps p List.mem_cons_self) c hc
      · obtain ⟨q, hq, hc⟩ := List.mem_flatMap.mp hc
        exact modifyHead_inner (fun _ => Inner.toUpper) (hps q (List.mem_cons_of_mem p hq)) c hc

theorem plain_snaked {ps : List (List Char)} (hps : ∀ p ∈ ps, ∀ c ∈ p, Inner c) :
    ∀ c ∈ snaked ps, c.toNat < 0x80 := by
  intro c hc
  rcases Text.mem_intercalate hc with rfl | ⟨q, hq, hc⟩
  · decide
  · obtain ⟨p, hp, rfl⟩ := List.mem_map.mp hq
    obtain ⟨d, hd, rfl⟩ := List.mem_map.mp hc
    exact (hps p hp d hd).toLower.plain

theorem plain_toCamel (h : Plain words) : Plain (toCamel words) := by
  rw [toCamel_plain h, Plain, List.forall_mem_singleton, String.toList_ofList]
  exact fun c hc => (cameled_inner (fun p hp => parts_inner h hp) c hc).plain

theorem plain_toSnake (h : Plain words) : Plain (toSnake words) := by
  rw [toSnake_plain h, Plain, List.forall_mem_singleton, String.toList_ofList]
  exact plain_snaked fun p hp => parts_inner h hp

/-- **The parts of a camel-case word** are its humps. -/
theorem parts_toCamel (h : Plain words) : parts (toCamel words) = humps (cameled (parts words)) := by
  rw [toCamel_plain h]
  exact parts_single fun c hc => (cameled_inner (fun p hp => parts_inner h hp) c hc).inside

/-- **Texts without capitals joined by a separator** are the parts of what is joined. -/
theorem cut_joined {x : Char} (hx : isSeparator x = true) {qs : List (List Char)} (hne : [] ∉ qs)
    (hqs : ∀ q ∈ qs, ∀ c ∈ q, isSeparator c = false ∧ c.isUpper = false) :
    (chunks isSeparator ([x].intercalate qs)).flatMap humps = qs := by
  have hone : ∀ q ∈ qs, humps q = [q] := fun q hq =>
    humps_small (fun hnil => hne (hnil ▸ hq)) fun c hc => (hqs q hq c hc).2
  rw [Text.chunks_intercalate hx hne fun q hq c hc => (hqs q hq c hc).1, List.flatMap_congr hone,
    List.flatMap_singleton']

/-- **The parts of a snake-case word** are the parts it was joined from, in lower case. -/
theorem parts_toSnake (h : Plain words) : parts (toSnake words) = (parts words).map (List.map Char.toLower) := by
  rw [toSnake_plain h, parts, String.toList_intercalate, List.map_singleton, List.intercalate_singleton,
    String.toList_ofList]
  refine cut_joined (by decide) ?_ ?_
  · intro hnil
    obtain ⟨p, hp, hempty⟩ := List.mem_map.mp hnil
    exact (mem_parts hp).1 (List.map_eq_nil_iff.mp hempty)
  · intro q hq c hc
    obtain ⟨p, hp, rfl⟩ := List.mem_map.mp hq
    obtain ⟨d, hd, rfl⟩ := List.mem_map.mp hc
    exact ⟨(parts_inner h hp d hd).toLower.inside, Char.isUpper_toLower_eq_false d⟩

/-! ## The styles again -/

/-- Lower case is reached at once. -/
theorem snaked_lower (ps : List (List Char)) : snaked (ps.map (List.map Char.toLower)) = snaked ps := by
  simp [snaked, Function.comp_def, Char.toLower_toLower_eq_toLower]

/-- A word in camel case starts small. -/
theorem cameled_head {ps : List (List Char)} (hne : [] ∉ ps) : ∀ c ∈ (cameled ps).head?, c.toLower = c := by
  cases ps with
  | nil => simp [cameled]
  | cons p ps =>
      cases p with
      | nil => exact absurd List.mem_cons_self hne
      | cons c rest => simp [cameled, Char.toLower_toLower_eq_toLower]

/-- The parts of words without capitals are in lower case. -/
theorem parts_lower (h : ∀ w ∈ words, ∀ c ∈ w.toList, c.isUpper = false) :
    (parts words).map (List.map Char.toLower) = parts words := by
  have hsame : ∀ p ∈ parts words, p.map Char.toLower = id p := by
    intro p hp
    have hchar : ∀ c ∈ p, c.toLower = id c := fun c hc => by
      obtain ⟨-, w, hw, hmem⟩ := (mem_parts hp).2 c hc
      exact Char.toLower_eq_of_not_isUpper (by simp [h w hw c hmem])
    exact (List.map_congr_left hchar).trans (List.map_id p)
  exact (List.map_congr_left hsame).trans (List.map_id _)

/-- **A text that starts small is put together from its humps as it was.** -/
theorem cameled_humps {s : List Char} (hs : ∀ c ∈ s.head?, c.toLower = c) : cameled (humps s) = s := by
  have hflat : (humps s).flatten = s := by
    rw [humps_eq_splitBy]
    exact List.flatten_splitBy _ s
  cases hcut : humps s with
  | nil =>
      rw [hcut] at hflat
      exact hflat
  | cons p ps =>
      have hp : p ∈ humps s := hcut ▸ List.mem_cons_self
      obtain ⟨c, rest, rfl⟩ := List.exists_cons_of_ne_nil (mem_humps hp).1
      rw [hcut] at hflat
      have hfirst : c.toLower = c := hs c (by rw [← hflat]; rfl)
      have hlater : ps.flatMap (List.modifyHead Char.toUpper) = ps.flatMap id := by
        refine List.flatMap_congr fun q hq => ?_
        obtain ⟨d, more, rfl, hcapital⟩ := humps_capital hcut q hq
        rw [List.modifyHead_cons, Char.toUpper_eq_of_not_isLower (Char.not_isLower_of_isUpper hcapital), id]
      rw [cameled, List.modifyHead_cons, hfirst, hlater, List.flatMap_id]
      exact hflat

/-- A part of two small letters or more. -/
structure Small (p : List Char) : Prop where
  long : 2 ≤ p.length
  small : ∀ c ∈ p, c.isLower = true

namespace Small

variable {p : List Char}

theorem not_isUpper (h : Small p) {c : Char} (hc : c ∈ p) : c.isUpper = false :=
  Bool.eq_false_iff.mpr (Char.not_isUpper_of_isLower (h.small c hc))

/-- A part with a capital begins with it, goes on without one, and ends small. -/
theorem capitalized (h : Small p) : ∃ c d rest, p.modifyHead Char.toUpper = c :: d :: rest ∧ c.isUpper = true ∧
    ∀ b ∈ d :: rest, b.isLower = true := by
  obtain ⟨c, d, rest, rfl⟩ : ∃ c d rest, p = c :: d :: rest := by
    rcases p with - | ⟨c, - | ⟨d, rest⟩⟩
    · exact absurd h.long (by simp)
    · exact absurd h.long (by simp)
    · exact ⟨c, d, rest, rfl⟩
  refine ⟨c.toUpper, d, rest, rfl, ?_, fun b hb => h.small b (List.mem_cons_of_mem c hb)⟩
  rw [Char.isUpper_toUpper_eq_isAlpha, Char.isAlpha, h.small c List.mem_cons_self, Bool.or_true]

end Small

/-- A capital begins a part after every part that ends small. -/
theorem chain_capitalized {p : List Char} (hp : ∃ hne : p ≠ [], (p.getLast hne).isLower = true)
    {ps : List (List Char)} (hps : ∀ q ∈ ps, Small q) :
    (p :: ps.map (List.modifyHead Char.toUpper)).IsChain
      fun a b => ∃ ha hb, (!isHump (a.getLast ha) (b.head hb)) = false := by
  induction ps generalizing p with
  | nil => exact List.isChain_singleton p
  | cons q ps ih =>
      obtain ⟨hne, hlast⟩ := hp
      -- the second letter of a part is small, so the part ends small with its capital too
      obtain ⟨c, d, rest, hq, hcapital, hsmall⟩ := (hps q List.mem_cons_self).capitalized
      have hend : ∃ h : q.modifyHead Char.toUpper ≠ [], ((q.modifyHead Char.toUpper).getLast h).isLower = true := by
        rw [hq]
        exact ⟨by simp, hsmall _ (by simp)⟩
      rw [List.map_cons, List.isChain_cons_cons]
      refine ⟨?_, ih hend fun r hr => hps r (List.mem_cons_of_mem q hr)⟩
      simp only [hq]
      exact ⟨hne, by simp, by simp [isHump, hlast, hcapital]⟩

/-- **Small parts in camel case are cut again where they were joined.** -/
theorem humps_cameled {p : List Char} {ps : List (List Char)} (hps : ∀ q ∈ p :: ps, Small q) :
    humps (cameled (p :: ps)) = p :: ps.map (List.modifyHead Char.toUpper) := by
  have hp : Small p := hps p List.mem_cons_self
  have hrest : ∀ q ∈ ps, Small q := fun q hq => hps q (List.mem_cons_of_mem p hq)
  have hne : p ≠ [] := by
    rintro rfl
    exact absurd hp.long (by simp)
  have hfirst : p.modifyHead Char.toLower = p := by
    obtain ⟨c, rest, rfl⟩ := List.exists_cons_of_ne_nil hne
    rw [List.modifyHead_cons, Char.toLower_eq_of_not_isUpper]
    simp [hp.not_isUpper List.mem_cons_self]
  rw [humps_eq_splitBy, List.splitBy_eq_iff]
  refine ⟨?_, ?_, ?_, chain_capitalized ⟨hne, hp.small _ (List.getLast_mem hne)⟩ hrest⟩
  · rw [cameled, hfirst, List.flatMap_def, List.flatten_cons]
  · rw [List.mem_cons, not_or]
    refine ⟨Ne.symm hne, fun hnil => ?_⟩
    obtain ⟨q, hq, hempty⟩ := List.mem_map.mp hnil
    obtain ⟨c, d, rest, hcut, -⟩ := (hrest q hq).capitalized
    rw [hcut] at hempty
    cases hempty
  · intro q hq
    rcases List.mem_cons.mp hq with rfl | hq
    · exact chain_small fun c hc => hp.not_isUpper (List.mem_of_mem_tail hc)
    · obtain ⟨r, hr, rfl⟩ := List.mem_map.mp hq
      obtain ⟨c, d, rest, hcut, -, hsmall⟩ := (hrest r hr).capitalized
      rw [hcut]
      exact chain_small fun b hb => Bool.eq_false_iff.mpr (Char.not_isUpper_of_isLower (hsmall b hb))

/-- **Small parts in camel case are the same parts in lower case.** -/
theorem snaked_humps {ps : List (List Char)} (hps : ∀ p ∈ ps, Small p) :
    snaked (humps (cameled ps)) = snaked ps := by
  cases ps with
  | nil => rfl
  | cons p ps =>
      have hlower : ∀ q : List Char, (q.modifyHead Char.toUpper).map Char.toLower = q.map Char.toLower := by
        intro q
        cases q <;> simp [Char.toLower_toUpper_eq_toLower]
      rw [humps_cameled hps]
      simp [snaked, Function.comp_def, hlower]

/-- Words of small letters are their own parts. -/
theorem parts_small (h : Plain words) (hsmall : ∀ w ∈ words, Small w.toList) :
    parts words = words.map String.toList := by
  have hinside : ∀ c : Char, c.toNat < 0x80 → c.isLower = true → isSeparator c = false := fun c hc =>
    plain_forall (P := fun c => c.isLower = true → isSeparator c = false) (by decide +kernel) hc
  unfold parts
  rw [String.toList_intercalate]
  refine cut_joined (by decide) ?_ ?_
  · intro hnil
    obtain ⟨w, hw, hempty⟩ := List.mem_map.mp hnil
    exact absurd (hsmall w hw).long (by simp [hempty])
  · intro q hq c hc
    obtain ⟨w, hw, rfl⟩ := List.mem_map.mp hq
    exact ⟨hinside c (h w hw c hc) ((hsmall w hw).small c hc), (hsmall w hw).not_isUpper hc⟩

/-- **Camel and snake case, written again.** On words of plain characters each of the two styles leaves its own result
as it is; camel case of snake case is camel case where the words have no capital; and snake case of camel case is
snake case where every word is two small letters or more. -/
theorem camel_and_snake (h : Plain words) :
    toCamel (toCamel words) = toCamel words ∧ toSnake (toSnake words) = toSnake words ∧
      ((∀ w ∈ words, ∀ c ∈ w.toList, c.isUpper = false) → toCamel (toSnake words) = toCamel words) ∧
      ((∀ w ∈ words, 2 ≤ w.length ∧ ∀ c ∈ w.toList, c.isLower = true) →
        toSnake (toCamel words) = toSnake words) := by
  have hne : [] ∉ parts words := fun hnil => (mem_parts hnil).1 rfl
  have hcamel : Plain (toCamel words) := plain_toCamel h
  have hsnake : Plain (toSnake words) := plain_toSnake h
  refine ⟨?_, ?_, fun hcapital => ?_, fun hletters => ?_⟩
  · rw [toCamel_plain hcamel, parts_toCamel h, cameled_humps (cameled_head hne), toCamel_plain h]
  · rw [toSnake_plain hsnake, parts_toSnake h, snaked_lower, toSnake_plain h]
  · rw [toCamel_plain hsnake, parts_toSnake h, parts_lower hcapital, toCamel_plain h]
  · have hsmall : ∀ w ∈ words, Small w.toList := fun w hw =>
      ⟨w.length_toList ▸ (hletters w hw).1, (hletters w hw).2⟩
    have hparts : ∀ p ∈ parts words, Small p := by
      intro p hp
      rw [parts_small h hsmall] at hp
      obtain ⟨w, hw, rfl⟩ := List.mem_map.mp hp
      exact hsmall w hw
    rw [toSnake_plain hcamel, parts_toCamel h, toSnake_plain h, snaked_humps hparts]

theorem camel_and_snake_saveFile :
    toCamel (toCamel ["save", "file"]) = ["saveFile"] ∧ toSnake (toSnake ["save", "file"]) = ["save_file"] ∧
      toCamel (toSnake ["save", "file"]) = ["saveFile"] ∧ toSnake (toCamel ["save", "file"]) = ["save_file"] := by
  have hplain : Plain ["save", "file"] := by simp [Plain]
  have hlong : 2 ≤ "save".length ∧ 2 ≤ "file".length := by decide
  have hletters : ∀ w ∈ ["save", "file"], 2 ≤ w.length ∧ ∀ c ∈ w.toList, c.isLower = true := by simpa using hlong
  have hcamel : toCamel ["save", "file"] = ["saveFile"] := by decide +kernel
  have hsnake : toSnake ["save", "file"] = ["save_file"] := by decide +kernel
  obtain ⟨hcc, hss, hcs, hsc⟩ := camel_and_snake hplain
  exact ⟨hcc.trans hcamel, hss.trans hsnake, (hcs (by simp)).trans hcamel, (hsc hletters).trans hsnake⟩

/-- Single letters are not found again: two capitals in a row stand in one part. -/
example : toSnake ["x", "y", "z"] = ["x_y_z"] ∧ toSnake (toCamel ["x", "y", "z"]) = ["x_yz"] := by decide +kernel

end CaseStyle

end PadScribe
