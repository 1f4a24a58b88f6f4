import ClusterProbe.KeypairFile
import ClusterProbe.Proofs.Crypto.Compression
import ClusterProbe.Proofs.Json

/-!
# What a key pair file has to say

A file holds a key pair just if it is one list of octets in decimal, with nothing but blanks around
the tokens: the 32 octets of a seed, and then those of the public key that follows from it.
-/

namespace ClusterProbe

namespace KeypairFile

open Json (Parsed Blank EndsNumber numeral octet isBlank isDigit skipBlanks)

/-- An octet as it may stand in a list. -/
def Entry (b : UInt8) (s : List UInt8) : Prop :=
  ∃ before after, Blank before ∧ Blank after ∧ s = before ++ numeral b.toNat ++ after

/-- The content of a file is one list of these octets. -/
def Lists (octets content : List UInt8) : Prop :=
  ∃ before entries after, Blank before ∧ Blank after ∧ List.Forall₂ Entry octets entries ∧
    content = before ++ octet '[' :: ([octet ','].intercalate entries ++ octet ']' :: after)

variable {s rest text octets before : List UInt8} {b : UInt8}

/-! ## Octets -/

theorem refuse_ne_ok {α : Type} {expected : String} {x : α} :
    refuse expected s ≠ .ok (x, rest) := by
  unfold refuse
  split
  · exact Json.stop_ne_ok
  · dsimp only
    -- Whatever value it is, it ends in a fault.
    repeat' split
    all_goals first
      | exact Json.stop_ne_ok
      | exact Json.andThen_ne_ok fun _ _ => Json.stop_ne_ok

theorem ofNumber_eq_ok_iff {n : Json.Number} :
    ofNumber n s = .ok (b, rest) ↔ n = .count b.toNat ∧ s = rest := by
  constructor
  · intro h
    unfold ofNumber at h
    split at h
    · split at h
      · next hk =>
        cases h
        rw [UInt8.toNat_ofNat_of_lt' hk]
        exact ⟨rfl, rfl⟩
      · cases h
    · cases h
    · cases h
  · rintro ⟨rfl, rfl⟩
    simp only [ofNumber, if_pos b.toNat_lt, UInt8.ofNat_toNat]

theorem number_eq_ok_iff {negative : Bool} :
    (Json.unsignedNumber .stream negative s).andThen ofNumber = .ok (b, rest) ↔
      negative = false ∧ s = numeral b.toNat ++ rest ∧ EndsNumber rest := by
  have hsize : b.toNat < UInt64.size := Nat.lt_trans b.toNat_lt (by decide)
  simp only [Json.andThen_eq_ok_iff, ofNumber_eq_ok_iff]
  constructor
  · rintro ⟨_, _, h, rfl, rfl⟩
    obtain ⟨hsign, -, hs, hends⟩ := Json.unsignedNumber_eq_count_iff.1 h
    exact ⟨hsign, hs, hends⟩
  · rintro ⟨hsign, hs, hends⟩
    exact ⟨_, _, Json.unsignedNumber_eq_count_iff.2 ⟨hsign, hsize, hs, hends⟩, rfl, rfl⟩

theorem exists_digit_of_numeral (n : Nat) : ∃ c ds, numeral n = c :: ds ∧ isDigit c = true := by
  obtain ⟨d, ds, hlt, -, -, hnumeral⟩ := Json.exists_digits_of_numeral n
  exact ⟨_, _, hnumeral, Json.isDigit_glyph (hlt d List.mem_cons_self)⟩

/-- An octet is read where its numeral is at an end. -/
theorem item_eq_ok_iff :
    item s = .ok (b, rest) ↔ s = numeral b.toNat ++ rest ∧ EndsNumber rest := by
  obtain ⟨c, ds, hnumeral, hc⟩ := exists_digit_of_numeral b.toNat
  cases s with
  | nil =>
    refine iff_of_false Json.stop_ne_ok fun h => ?_
    rw [hnumeral] at h
    cases h.1
  | cons d after =>
    by_cases hdigit : isDigit d = true
    · have hsign : d ≠ octet '-' := by
        rintro rfl
        exact absurd hdigit (by decide)
      rw [item, if_neg hsign, if_pos hdigit, number_eq_ok_iff]
      exact and_iff_right rfl
    · have hnot : d :: after ≠ numeral b.toNat ++ rest := by
        intro h
        rw [hnumeral, List.cons_append, List.cons.injEq] at h
        exact hdigit (h.1 ▸ hc)
      refine iff_of_false ?_ fun h => hnot h.1
      by_cases hsign : d = octet '-'
      · rw [item, if_pos hsign, number_eq_ok_iff]
        exact fun h => Bool.noConfusion h.1
      · rw [item, if_neg hsign, if_neg hdigit]
        exact refuse_ne_ok

/-! ## Lists -/

/-- What stands from the end of a numeral on, up to the closing bracket, and the octets in it. -/
inductive Continues : List UInt8 → List UInt8 → Prop where
  | closed {blanks : List UInt8} (hblanks : Blank blanks) : Continues [] blanks
  | next {after before octets text : List UInt8} (b : UInt8) (hafter : Blank after)
      (hbefore : Blank before) (h : Continues octets text) :
      Continues (b :: octets) (after ++ octet ',' :: (before ++ (numeral b.toNat ++ text)))

theorem endsNumber_blanks (h : Blank s) (hb : b = octet ',' ∨ b = octet ']') :
    EndsNumber (s ++ b :: rest) := by
  have hends : ∀ c : UInt8, isBlank c = true ∨ c = octet ',' ∨ c = octet ']' →
      isDigit c = false ∧ c ≠ octet '.' ∧ Json.isExponent c = false := by
    intro c hc
    simp only [isBlank, Bool.or_eq_true, decide_eq_true_eq] at hc
    rcases hc with ((((rfl | rfl) | rfl) | rfl) | rfl | rfl) <;> decide
  intro c hc
  cases s with
  | nil =>
    obtain rfl := Option.some.inj hc
    exact hends b (.inr hb)
  | cons d s =>
    obtain rfl := Option.some.inj hc
    exact hends d (.inl (h d List.mem_cons_self))

theorem Continues.endsNumber (h : Continues octets text) :
    EndsNumber (text ++ octet ']' :: rest) := by
  cases h with
  | closed hblanks => exact endsNumber_blanks hblanks (.inr rfl)
  | next b hafter _ _ =>
    rw [List.append_assoc, List.cons_append]
    exact endsNumber_blanks hafter (.inl rfl)

theorem skipBlanks_numeral (h : Blank before) (n : Nat) (s : List UInt8) :
    ∃ c after, skipBlanks (before ++ (numeral n ++ s)) = c :: after ∧ c ≠ octet ']' ∧
      c :: after = numeral n ++ s := by
  obtain ⟨d, ds, hlt, -, -, hnumeral⟩ := Json.exists_digits_of_numeral n
  have hglyph : ∀ d < 10, isBlank (Json.glyph d) = false ∧ Json.glyph d ≠ octet ']' := by decide
  obtain ⟨hblank, hbracket⟩ := hglyph d (hlt d List.mem_cons_self)
  rw [Json.skipBlanks_append h, hnumeral, List.map_cons, List.cons_append]
  exact ⟨_, _, Json.skipBlanks_cons hblank _, hbracket, rfl⟩

/-- After an entry, a list is at its end or has one more entry behind a comma. -/
theorem itemsFrom_succ_eq_ok_iff {fuel : Nat} {read : List UInt8} (hread : read ≠ []) :
    Json.itemsFrom item (fuel + 1) read s = .ok (octets, rest) ↔
      (∃ blanks, Blank blanks ∧ s = blanks ++ octet ']' :: rest ∧ octets = read.reverse) ∨
      ∃ after before b tail, Blank after ∧ Blank before ∧ EndsNumber tail ∧
        s = after ++ octet ',' :: (before ++ (numeral b.toNat ++ tail)) ∧
        Json.itemsFrom item fuel (b :: read) tail = .ok (octets, rest) := by
  have hempty : ¬ read.isEmpty = true := by rwa [List.isEmpty_iff]
  simp only [Json.itemsFrom, if_neg hempty]
  constructor
  · intro h
    split at h
    · cases h
    next c _ hskip =>
    obtain ⟨after, hafter, rfl⟩ := Json.exists_blanks hskip
    split at h
    · next hc =>
      cases h
      exact .inl ⟨after, hafter, by rw [hc], rfl⟩
    split at h
    · next hc =>
      subst hc
      split at h
      · cases h
      next d _ hskip' =>
      obtain ⟨before, hbefore, rfl⟩ := Json.exists_blanks hskip'
      split at h
      · cases h
      split at h
      · cases h
      next b tail hitem =>
      obtain ⟨hnumeral, hends⟩ := item_eq_ok_iff.1 hitem
      exact .inr ⟨after, before, b, tail, hafter, hbefore, hends, by rw [hnumeral], h⟩
    · cases h
  · rintro (⟨blanks, hblanks, rfl, rfl⟩ |
      ⟨after, before, b, tail, hafter, hbefore, hends, rfl, h⟩)
    · rw [Json.skipBlanks_append hblanks, Json.skipBlanks_cons (by decide)]
      rfl
    · have hne : ¬ octet ',' = octet ']' := by decide
      obtain ⟨c, _, hskip, hc, hnumeral⟩ := skipBlanks_numeral hbefore b.toNat tail
      rw [Json.skipBlanks_append hafter, Json.skipBlanks_cons (by decide)]
      dsimp only
      rw [if_neg hne, if_pos rfl, hskip]
      dsimp only
      rw [if_neg hc, item_eq_ok_iff.2 ⟨hnumeral, hends⟩]
      exact h

/-- What is left of a list is read, whatever of it has been read before. -/
theorem itemsFrom_of_continues (h : Continues octets text) {fuel : Nat} {read : List UInt8}
    (hread : read ≠ []) (hfuel : (text ++ octet ']' :: rest).length < fuel) :
    Json.itemsFrom item fuel read (text ++ octet ']' :: rest) =
      .ok (read.reverse ++ octets, rest) := by
  -- Each entry takes an octet at least, so the fuel outlasts the text.
  induction h generalizing fuel read with
  | closed hblanks =>
    obtain ⟨fuel, rfl⟩ := Nat.exists_eq_succ_of_ne_zero (Nat.ne_zero_of_lt hfuel)
    exact (itemsFrom_succ_eq_ok_iff hread).2
      (.inl ⟨_, hblanks, rfl, List.append_nil read.reverse⟩)
  | @next after before octets text b hafter hbefore h ih =>
    obtain ⟨fuel, rfl⟩ := Nat.exists_eq_succ_of_ne_zero (Nat.ne_zero_of_lt hfuel)
    have hrest : (text ++ octet ']' :: rest).length < fuel := by
      simp only [List.length_append, List.length_cons] at hfuel ⊢
      omega
    refine (itemsFrom_succ_eq_ok_iff hread).2
      (.inr ⟨after, before, b, text ++ octet ']' :: rest, hafter, hbefore, h.endsNumber, ?_, ?_⟩)
    · simp only [List.append_assoc, List.cons_append]
    · rw [ih (List.cons_ne_nil b read) hrest, List.reverse_cons, List.append_assoc,
        List.singleton_append]

/-- Nothing else is read as what is left of a list. -/
theorem continues_of_itemsFrom {fuel : Nat} {read : List UInt8} (hread : read ≠ [])
    (h : Json.itemsFrom item fuel read s = .ok (octets, rest)) :
    ∃ later text, octets = read.reverse ++ later ∧ Continues later text ∧
      s = text ++ octet ']' :: rest := by
  induction fuel generalizing read s with
  | zero => cases h
  | succ fuel ih =>
    rcases (itemsFrom_succ_eq_ok_iff hread).1 h with ⟨blanks, hblanks, rfl, rfl⟩ |
      ⟨after, before, b, tail, hafter, hbefore, -, rfl, hrest⟩
    · exact ⟨[], blanks, (List.append_nil _).symm, .closed hblanks, rfl⟩
    · obtain ⟨later, text, rfl, hmore, rfl⟩ := ih (List.cons_ne_nil b read) hrest
      refine ⟨b :: later, _, ?_, .next b hafter hbefore hmore, ?_⟩
      · rw [List.reverse_cons, List.append_assoc, List.singleton_append]
      · simp only [List.append_assoc, List.cons_append]

theorem items_eq_ok_iff :
    Json.items item s = .ok (b :: octets, rest) ↔
      ∃ before text, Blank before ∧ Continues octets text ∧
        s = before ++ (numeral b.toNat ++ (text ++ octet ']' :: rest)) := by
  unfold Json.items
  constructor
  · intro h
    simp only [Json.itemsFrom] at h
    split at h
    · cases h
    · next c after hskip =>
      obtain ⟨blanks, hblanks, rfl⟩ := Json.exists_blanks hskip
      split at h
      · cases h
      · rw [if_pos List.isEmpty_nil] at h
        split at h
        · cases h
        · next d tail hitem =>
          obtain ⟨hitem, -⟩ := item_eq_ok_iff.1 hitem
          obtain ⟨later, text, hoctets, hmore, rfl⟩ :=
            continues_of_itemsFrom (List.cons_ne_nil d []) h
          obtain ⟨rfl, rfl⟩ := List.cons.inj hoctets
          exact ⟨blanks, text, hblanks, hmore, by rw [hitem]⟩
  · rintro ⟨before, text, hbefore, hmore, rfl⟩
    obtain ⟨c, tail, hskip, hc, htail⟩ :=
      skipBlanks_numeral hbefore b.toNat (text ++ octet ']' :: rest)
    simp only [Json.itemsFrom]
    rw [hskip]
    dsimp only
    rw [if_neg hc, if_pos List.isEmpty_nil, item_eq_ok_iff.2 ⟨htail, hmore.endsNumber⟩]
    dsimp only
    rw [itemsFrom_of_continues hmore (List.cons_ne_nil b [])]
    · rfl
    · obtain ⟨d, ds, hnumeral, -⟩ := exists_digit_of_numeral b.toNat
      simp only [hnumeral, List.length_append, List.length_cons]
      omega

/-- The entries of a list, put together. -/
theorem exists_entries_iff :
    (∃ entries, List.Forall₂ Entry (b :: octets) entries ∧ s = [octet ','].intercalate entries) ↔
      ∃ before text, Blank before ∧ Continues octets text ∧
        s = before ++ (numeral b.toNat ++ text) := by
  induction octets generalizing b s with
  | nil =>
    constructor
    · rintro ⟨entries, hentries, rfl⟩
      obtain ⟨_, _, ⟨before, after, hbefore, hafter, rfl⟩, htail, rfl⟩ :=
        List.forall₂_cons_left_iff.1 hentries
      obtain rfl := List.forall₂_nil_left_iff.1 htail
      refine ⟨before, after, hbefore, .closed hafter, ?_⟩
      rw [List.intercalate_singleton, List.append_assoc]
    · rintro ⟨before, text, hbefore, hmore, rfl⟩
      cases hmore with
      | closed hafter =>
        refine ⟨[before ++ numeral b.toNat ++ text],
          .cons ⟨before, text, hbefore, hafter, rfl⟩ .nil, ?_⟩
        rw [List.intercalate_singleton, List.append_assoc]
  | cons c octets ih =>
    have hjoin {entries : List (List UInt8)} (h : List.Forall₂ Entry (c :: octets) entries)
        (entry : List UInt8) : [octet ','].intercalate (entry :: entries) =
          entry ++ octet ',' :: [octet ','].intercalate entries := by
      have hne : entries ≠ [] := by
        rintro rfl
        cases h
      rw [List.intercalate_cons_of_ne_nil hne, List.append_assoc, List.singleton_append]
    constructor
    · rintro ⟨entries, hentries, rfl⟩
      obtain ⟨_, entries, ⟨before, after, hbefore, hafter, rfl⟩, htail, rfl⟩ :=
        List.forall₂_cons_left_iff.1 hentries
      obtain ⟨before', text, hbefore', hmore, heq⟩ := ih.1 ⟨entries, htail, rfl⟩
      refine ⟨before, _, hbefore, .next c hafter hbefore' hmore, ?_⟩
      rw [hjoin htail, heq, List.append_assoc, List.append_assoc]
    · rintro ⟨before, text, hbefore, hmore, rfl⟩
      cases hmore with
      | @next after before' _ text _ hafter hbefore' hmore =>
        obtain ⟨entries, htail, heq⟩ := ih.2 ⟨before', text, hbefore', hmore, rfl⟩
        refine ⟨(before ++ numeral b.toNat ++ after) :: entries,
          .cons ⟨before, after, hbefore, hafter, rfl⟩ htail, ?_⟩
        rw [hjoin htail, ← heq, List.append_assoc, List.append_assoc]

theorem list_eq_ok_iff {xs : List UInt8} :
    list s = .ok (xs, rest) ↔ ∃ before after, Blank before ∧ s = before ++ octet '[' :: after ∧
      Json.items item after = .ok (xs, rest) := by
  unfold list
  constructor
  · intro h
    split at h
    · cases h
    · next c after hskip =>
      obtain ⟨before, hbefore, rfl⟩ := Json.exists_blanks hskip
      split at h
      · next hc => exact ⟨before, after, hbefore, by rw [hc], h⟩
      · exact absurd h refuse_ne_ok
  · rintro ⟨before, after, hbefore, rfl, h⟩
    rw [Json.skipBlanks_append hbefore, Json.skipBlanks_cons (by decide)]
    dsimp only
    rw [if_pos rfl, h]

/-- A list of octets is read from the contents that it is in, and from no others. -/
theorem readWhole_list_eq_ok_iff {content : List UInt8} (hne : octets ≠ []) :
    Json.readWhole list content = .ok octets ↔ Lists octets content := by
  obtain ⟨b, octets, rfl⟩ := List.exists_cons_of_ne_nil hne
  simp only [Json.readWhole_eq_ok_iff, list_eq_ok_iff, items_eq_ok_iff]
  constructor
  · rintro ⟨after, ⟨before, _, hbefore, rfl, blanks, text, hblanks, hmore, rfl⟩, hafter⟩
    obtain ⟨entries, hentries, heq⟩ := exists_entries_iff.2 ⟨blanks, text, hblanks, hmore, rfl⟩
    refine ⟨before, entries, after, hbefore, hafter, hentries, ?_⟩
    rw [← heq, List.append_assoc, List.append_assoc]
  · rintro ⟨before, entries, after, hbefore, hafter, hentries, rfl⟩
    obtain ⟨blanks, text, hblanks, hmore, heq⟩ := exists_entries_iff.1 ⟨entries, hentries, rfl⟩
    refine ⟨after, ⟨before, _, hbefore, rfl, blanks, text, hblanks, hmore, ?_⟩, hafter⟩
    rw [heq, List.append_assoc, List.append_assoc]

end KeypairFile

/-! ## Key pairs -/

/-- The octets that a key pair is stored as are those of its seed and of its public key. -/
theorem Keypair.ofOctets_eq_ok_iff {octets : List UInt8} {k : Keypair} :
    ofOctets octets = .ok k ↔ octets = k.seed.toList ++ k.publicKey.toList := by
  constructor
  · intro h
    unfold ofOctets at h
    split at h
    · cases h
    · split at h
      · next seed key hseed hkey =>
        split at h
        · cases h
        · dsimp only at h
          split at h
          · cases h
            rw [Octets.ofList?_eq_some_iff.1 hseed, Octets.ofList?_eq_some_iff.1 hkey,
              List.take_append_drop]
          · cases h
      · cases h
  · rintro rfl
    obtain ⟨seed, key, hkey⟩ := k
    have hlength : ¬ (seed.toList ++ key.toList).length < 64 := by
      rw [List.length_append, seed.length_toList, key.length_toList]
      decide
    have hpoint : ¬ (Ed25519.Point.decompress key).isNone = true := by
      rw [hkey, Option.isNone_iff_eq_none, ← Option.not_isSome_iff_eq_none, not_not]
      exact Ed25519.isSome_decompress_publicKey seed
    rw [ofOctets, if_neg hlength, List.take_left' seed.length_toList,
      List.drop_left' seed.length_toList, Octets.ofList?_toList, Octets.ofList?_toList]
    dsimp only
    rw [if_neg hpoint, dif_pos hkey]

namespace KeypairFile

theorem ofContent_eq_ok_iff {content : List UInt8} {k : Keypair} :
    ofContent content = .ok k ↔ Lists (k.seed.toList ++ k.publicKey.toList) content := by
  have hne : k.seed.toList ++ k.publicKey.toList ≠ [] := by
    refine List.append_ne_nil_of_left_ne_nil (List.ne_nil_of_length_pos ?_) _
    rw [k.seed.length_toList]
    decide
  rw [← readWhole_list_eq_ok_iff hne]
  unfold ofContent
  cases hread : Json.readWhole list content with
  | error error => simp
  | ok octets =>
    rw [Except.ok.injEq, ← Keypair.ofOctets_eq_ok_iff]
    dsimp only
    cases Keypair.ofOctets octets with
    | error fault => simp
    | ok payer => simp

theorem load_eq_ok_iff {read : Path → Except FileFault (List UInt8)} {path : Path} {k : Keypair} :
    load read path = .ok k ↔ ∃ content, read path = .ok content ∧
      Lists (k.seed.toList ++ k.publicKey.toList) content := by
  unfold load
  cases read path with
  | error fault => simp
  | ok content => simp [ofContent_eq_ok_iff]

end KeypairFile

end ClusterProbe
