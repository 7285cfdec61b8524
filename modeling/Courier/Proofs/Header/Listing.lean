import Courier.Header.Listing
import Courier.Proofs.Text.Percent
import Mathlib.Data.List.Forall2
/-!
# Listing - what a setting lists is what was written into it

Main statement: lines whose values are escaped, or left as they are where they cannot be decoded, are listed as they
were given, whatever blanks stand around their names and values (`Header.list_decodes`).
-/
namespace Courier
namespace Header

open Text (isBlank trim trimEnd)
open Percent (bytes decodeText? Escaped StandsFor Broken)

/-- A text has nothing but blanks. -/
def Blanks (s : List Char) : Prop := ∀ c ∈ s, isBlank c

instance (s : List Char) : Decidable (Blanks s) := List.decidableBAll (fun c => isBlank c) s

/-- A text neither begins nor ends with a blank. -/
structure Tight (s : List Char) : Prop where
  first : ∀ c ∈ s.head?, isBlank c = false
  last : ∀ c ∈ s.getLast?, isBlank c = false

theorem tight_of_all {s : List Char} (first : (s.head?.all fun c => !isBlank c) = true)
    (last : (s.getLast?.all fun c => !isBlank c) = true) : Tight s :=
  ⟨by simpa [Option.all_eq_true] using first, by simpa [Option.all_eq_true] using last⟩

/-- How a value stands in a setting. -/
inductive Spelled (value : String) : List Char → Prop
  | escaped {text : List Char} (h : Escaped (bytes value) text) : Spelled value text
  /-- There is nothing to decode, or no decoding. -/
  | asItIs (tight : Tight value.toList) (comma : ',' ∉ value.toList)
    (h : '%' ∉ value.toList ∨ decodeText? value = none) : Spelled value value.toList

/-- How a line stands in a setting, with blanks around its name and its value. -/
inductive Listed : String × String → List Char → Prop
  | intro {name value : String} {text : List Char} (before after before' after' : List Char) (named : name ≠ "")
    (tight : Tight name.toList) (comma : ',' ∉ name.toList) (equals : '=' ∉ name.toList) (valued : value ≠ "")
    (spelled : Spelled value text) (blanks : ∀ s ∈ [before, after, before', after'], Blanks s) :
    Listed (name, value) (before ++ name.toList ++ after ++ '=' :: (before' ++ text ++ after'))

/-! ## Trimming -/

theorem dropWhile_blanks {front s : List Char} (hf : Blanks front) (hs : ∀ c ∈ s.head?, isBlank c = false) :
    (front ++ s).dropWhile isBlank = s := by
  rw [List.dropWhile_append_of_pos hf]
  cases s with
  | nil => rfl
  | cons c s => rw [List.dropWhile_cons_of_neg (by rw [hs c rfl]; exact Bool.false_ne_true)]

theorem trimEnd_blanks {s back : List Char} (hb : Blanks back) (hs : ∀ c ∈ s.getLast?, isBlank c = false) :
    trimEnd (s ++ back) = s := by
  rw [trimEnd, List.reverse_append, dropWhile_blanks, List.reverse_reverse]
  · exact fun c hc => hb c (List.mem_reverse.1 hc)
  · rwa [List.head?_reverse]

theorem trim_pad {before s after : List Char} (hb : Blanks before) (hs : Tight s) (ha : Blanks after) :
    trim (before ++ s ++ after) = s := by
  cases s with
  | nil =>
    have hall : Blanks (before ++ after) := List.forall_mem_append.2 ⟨hb, ha⟩
    have hnone := dropWhile_blanks hall (s := []) (fun c hc => nomatch hc)
    rw [List.append_nil] at hnone
    rw [trim, List.append_nil, hnone]
    rfl
  | cons c s =>
    rw [trim, List.append_assoc, dropWhile_blanks hb (by simpa using hs.first), trimEnd_blanks ha hs.last]

theorem trim_tight {s : List Char} (hs : Tight s) : trim s = s := by
  have h : trim ([] ++ s ++ []) = s := trim_pad (List.forall_mem_nil _) hs (List.forall_mem_nil _)
  rwa [List.nil_append, List.append_nil] at h

/-! ## Splitting -/

theorem pieces_eq (c : Char) (s : List Char) : pieces c s = s.splitOn c := by
  induction s with
  | nil => rfl
  | cons d s ih =>
    rw [pieces, ih, List.splitOn_eq_splitOnP, List.splitOn_eq_splitOnP, List.splitOnP_cons_eq_if_modifyHead]
    by_cases h : d = c
    · rw [if_pos h, if_pos (beq_iff_eq.2 h)]
    · rw [if_neg h, if_neg (by simpa using h)]
      cases hp : s.splitOnP (fun x => x == c) with
      | nil => exact absurd hp (List.splitOnP_ne_nil _ _)
      | cons piece more => rfl

theorem filterMap_eq_of_forall₂ {α β : Type} {f : α → Option β} {xs : List α} {ys : List β}
    (h : List.Forall₂ (fun x y => f x = some y) xs ys) : xs.filterMap f = ys := by
  induction h with
  | nil => rfl
  | cons hx _ ih => rw [List.filterMap_cons_some hx, ih]

/-- Lines without commas are split apart again. -/
theorem parseList_join {pairs : List (String × String)} {lines : List (List Char)}
    (h : List.Forall₂ (fun l p => ',' ∉ l ∧ pair? l = some p) lines pairs) :
    parseList (String.ofList ([','].intercalate lines)) = pairs := by
  obtain ⟨hcomma, h⟩ := (List.forall₂_and_left lines pairs).1 h
  rw [parseList, String.toList_ofList, pieces_eq]
  by_cases hnil : lines = []
  · subst hnil
    cases h
    rfl
  · rw [List.splitOn_intercalate ',' hcomma hnil]
    exact filterMap_eq_of_forall₂ h

/-- A line is split at its first equals sign. -/
theorem pair?_split {front back : List Char} (h : '=' ∉ front) (hname : trim front ≠ []) (hvalue : trim back ≠ []) :
    pair? (front ++ '=' :: back) =
      some (String.ofList (trim front), Percent.decodeOrKeep (String.ofList (trim back))) := by
  have hfront : ∀ c ∈ front, (c != '=') = true := fun c hc => by
    rw [bne_iff_ne]
    rintro rfl
    exact h hc
  have hdrop : (front ++ '=' :: back).dropWhile (· != '=') = '=' :: back := by
    rw [List.dropWhile_append_of_pos hfront]
    rfl
  have htake : (front ++ '=' :: back).takeWhile (· != '=') = front := by
    rw [List.takeWhile_append_of_pos hfront]
    exact List.append_nil front
  simp only [pair?, hdrop, htake, hname, hvalue, or_self, if_false]

/-! ## Lines -/

theorem isBlank_of_isAlphanum {c : Char} (h : c.isAlphanum) : isBlank c = false := by
  have hcases := Percent.isAlphanum_iff.1 h
  simp [isBlank]
  omega

theorem apart_of_plain {c : Char} (h : c.isAlphanum ∨ c = '%') : isBlank c = false ∧ c ≠ ',' := by
  rcases h with h | rfl
  · refine ⟨isBlank_of_isAlphanum h, ?_⟩
    rintro rfl
    cases h
  · decide

variable {value : String} {text : List Char}

theorem Spelled.tight (h : Spelled value text) : Tight text := by
  cases h with
  | escaped h =>
    exact ⟨fun c hc => (apart_of_plain (h.chars c (List.mem_of_mem_head? hc))).1,
      fun c hc => (apart_of_plain (h.chars c (List.mem_of_mem_getLast? hc))).1⟩
  | asItIs tight => exact tight

theorem Spelled.comma (h : Spelled value text) : ',' ∉ text := by
  cases h with
  | escaped h => exact fun hc => (apart_of_plain (h.chars ',' hc)).2 rfl
  | asItIs _ comma => exact comma

theorem Spelled.decodeOrKeep (h : Spelled value text) : Percent.decodeOrKeep (String.ofList text) = value := by
  rw [Percent.decodeOrKeep]
  cases h with
  | escaped h =>
    rw [h.decodeText?]
    rfl
  | asItIs _ _ h =>
    rw [String.ofList_toList]
    rcases h with h | h
    · rw [Percent.decodeText?_of_not_mem h]
      rfl
    · rw [h]
      rfl

theorem toList_ne_nil {s : String} (h : s ≠ "") : s.toList ≠ [] := fun hnil => h (String.toList_inj.1 hnil)

theorem Spelled.ne_nil (h : Spelled value text) (hv : value ≠ "") : text ≠ [] := by
  rintro rfl
  have heq := h.decodeOrKeep
  exact hv heq.symm

theorem not_mem_of_blanks {s : List Char} (h : Blanks s) {c : Char} (hc : isBlank c = false) : c ∉ s := fun hmem => by
  rw [h c hmem] at hc
  cases hc

theorem Listed.comma {p : String × String} {line : List Char} (h : Listed p line) : ',' ∉ line := by
  obtain ⟨before, after, before', after', -, -, comma, -, -, spelled, blanks⟩ := h
  have hblank : ∀ s ∈ [before, after, before', after'], ',' ∉ s := fun s hs =>
    not_mem_of_blanks (blanks s hs) (by decide)
  simp only [List.forall_mem_cons] at hblank
  simp [hblank, comma, spelled.comma]

theorem Listed.pair? {p : String × String} {line : List Char} (h : Listed p line) : Header.pair? line = some p := by
  obtain ⟨before, after, before', after', named, tight, -, equals, valued, spelled, blanks⟩ := h
  have hblank : ∀ s ∈ [before, after, before', after'], '=' ∉ s := fun s hs =>
    not_mem_of_blanks (blanks s hs) (by decide)
  simp only [List.forall_mem_cons] at hblank blanks
  obtain ⟨h1, h2, h3, h4, -⟩ := blanks
  have hname := trim_pad h1 tight h2
  have hvalue := trim_pad h3 spelled.tight h4
  rw [pair?_split (by simp [hblank, equals]) (by rw [hname]; exact toList_ne_nil named)
    (by rw [hvalue]; exact spelled.ne_nil valued), hname, hvalue, String.ofList_toList, spelled.decodeOrKeep]

/-- **What was written into a setting is listed**, each line once and in its place; and a text is decoded to the bytes
that it stands for, unless it stands for none or they are no text. -/
theorem list_decodes :
    (∀ pairs lines, List.Forall₂ Listed pairs lines →
      parseList (String.ofList ([','].intercalate lines)) = pairs) ∧
    ∀ s : String, (∀ t, decodeText? s = some t ↔ StandsFor s.toList (bytes t)) ∧
      (decodeText? s = none ↔ Broken s.toList ∨ ∃ bs, StandsFor s.toList bs ∧ ∀ t, bytes t ≠ bs) ∧
      ('%' ∉ s.toList → decodeText? s = some s) :=
  ⟨fun _ _ h => parseList_join (h.flip.imp fun _ _ hl => ⟨hl.comma, hl.pair?⟩), fun _ =>
    ⟨fun _ => Percent.decodeText?_eq_some_iff, Percent.decodeText?_eq_none_iff, Percent.decodeText?_of_not_mem⟩⟩

/-- One name twice, once with a value that is escaped in both cases and once with one that has no decoding. -/
theorem list_decodes_tenants :
    List.Forall₂ Listed [("x-tenant", "é,"), ("x-tenant", "50%")]
      ["\t x-tenant =%C3%a9%2C ".toList, "x-tenant=50%".toList] ∧
    parseList (String.ofList ([','].intercalate ["\t x-tenant =%C3%a9%2C ".toList, "x-tenant=50%".toList])) =
      [("x-tenant", "é,"), ("x-tenant", "50%")] ∧
    decodeText? "50%" = none := by
  have hnone : decodeText? "50%" = none := by
    refine (list_decodes.2 "50%").2.1.2 (.inl ⟨['5', '0'], [], rfl, ?_⟩)
    rintro ⟨_, _, _, _, _, h, -⟩
    cases h
  have hbytes : bytes "é," = [0xc3, 0xa9, 0x2c] := by decide +kernel
  have hfirst : Escaped (bytes "é,") "%C3%a9%2C".toList := by
    rw [hbytes]
    exact .escape (m := 12) (n := 3) (by decide) (by decide) (.escape (m := 10) (n := 9) (by decide) (by decide)
      (.escape (m := 2) (n := 12) (by decide) (by decide) .nil))
  have htight : Tight "x-tenant".toList := tight_of_all (by decide) (by decide)
  have hlisted : List.Forall₂ Listed [("x-tenant", "é,"), ("x-tenant", "50%")]
      ["\t x-tenant =%C3%a9%2C ".toList, "x-tenant=50%".toList] := by
    refine .cons ?_ (.cons ?_ .nil)
    · exact .intro ['\t', ' '] [' '] [] [' '] (by decide) htight (by decide) (by decide) (by decide)
        (.escaped hfirst) (by decide)
    · exact .intro [] [] [] [] (by decide) htight (by decide) (by decide) (by decide)
        (.asItIs (tight_of_all (by decide) (by decide)) (by decide) (.inr hnone)) (by decide)
  exact ⟨hlisted, list_decodes.1 _ _ hlisted, hnone⟩

end Header
end Courier
