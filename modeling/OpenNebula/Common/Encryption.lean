import Mathlib.Data.Finset.Sort
import Mathlib.Data.List.Forall2
import OpenNebula.Common.Template

namespace OpenNebula.Common

open Library

/-! # Encrypted attributes -/

/-- What the program takes from the library of ciphers; the characters of a text are its bytes. -/
structure Cipher where
  encodeBlock : String → Option String
  decodeBlock : String → List Char
  cbcEncrypt : String → String → String
  cbcDecrypt : String → String → Option String

abbrev EncryptedAttributes := Map String (Finset String)

namespace Cipher

variable (cipher : Cipher) (key : String)

/-- The bytes that stand for the padding are taken off; more than two are malformed. -/
def base64Decode (input : String) : String :=
  let output := cipher.decodeBlock input
  let padding := (input.toList.reverse.takeWhile (· = '=')).length
  if output = [] ∨ 2 < padding then "" else String.ofList (output.take (output.length - padding))

def aes256cbcEncrypt (input : String) : Option String := cipher.encodeBlock (cipher.cbcEncrypt key input)

def aes256cbcDecrypt (input : String) : Option String :=
  let crypted := cipher.base64Decode input
  if crypted = "" then none else cipher.cbcDecrypt key crypted

def Inverts : Prop := ∀ plain, ∃ crypted,
  cipher.aes256cbcEncrypt key plain = some crypted ∧ cipher.aes256cbcDecrypt key crypted = some plain

def encrypted (value : String) : Option String :=
  if (cipher.aes256cbcDecrypt key value).isSome then none else cipher.aes256cbcEncrypt key value

end Cipher

namespace VectorAttribute

/-- One turn of the loops of `encrypt` and `decrypt`: an empty value is passed by. -/
def rewriteSub (change : String → Option String) (attr : VectorAttribute) (sub : String) : VectorAttribute :=
  if attr.vectorValue sub = "" then attr
  else (change (attr.vectorValue sub)).elim attr (attr.replace sub)

def rewrite (change : String → Option String) (subs : Finset String) (attr : VectorAttribute) : VectorAttribute :=
  (subs.sort (· ≤ ·)).foldl (rewriteSub change) attr

end VectorAttribute

/-- The single attributes of a name are rewritten where nothing is named inside of it, the vector
attributes otherwise. -/
def Attribute.rewrite (change : String → Option String) (subs : Finset String) : Attribute → Attribute
  | .single value => .single (if subs = ∅ then (change value).getD value else value)
  | .vector attr => .vector (if subs = ∅ then attr else attr.rewrite change subs)

namespace Template

def rewrite (change : String → Option String) (eas : EncryptedAttributes) (tmpl : Template) : Template :=
  eas.entries.foldl (fun tmpl ea =>
    ⟨tmpl.attributes.map fun row => if row.1 = ea.1 then (row.1, row.2.rewrite change ea.2) else row⟩) tmpl

variable (cipher : Cipher) (key : String) (eas : EncryptedAttributes)

/-- Without a key nothing is done. -/
def encrypt (tmpl : Template) : Template :=
  if key = "" then tmpl else tmpl.rewrite (cipher.encrypted key) eas

def decrypt (tmpl : Template) : Template :=
  if key = "" then tmpl else tmpl.rewrite (cipher.aes256cbcDecrypt key) eas

end Template

/-! ## Values and their places

A place is an attribute of a template: its row, and the name inside of a vector.
-/

def Attribute.read : Attribute → Option String → Option String
  | .single value, none => some value
  | .vector attr, some sub => attr.lookup sub
  | _, _ => none

def Covers (subs : Finset String) : Option String → Prop
  | none => subs = ∅
  | some sub => sub ∈ subs

instance (subs : Finset String) : (place : Option String) → Decidable (Covers subs place)
  | none => inferInstanceAs (Decidable (subs = ∅))
  | some sub => inferInstanceAs (Decidable (sub ∈ subs))

section

variable (change : String → Option String)

def changed (place : Option String) (value : String) : String :=
  if place ≠ none ∧ value = "" then value else (change value).getD value

theorem lookup_rewrite (subs : Finset String) (attr : VectorAttribute) (sub : String) :
    (attr.rewrite change subs).lookup sub =
      if sub ∈ subs then (attr.lookup sub).map (changed change (some sub)) else attr.lookup sub := by
  have general (names : List String) (nodup : names.Nodup) (attr : VectorAttribute) :
      (names.foldl (VectorAttribute.rewriteSub change) attr).lookup sub =
        if sub ∈ names then (attr.lookup sub).map (changed change (some sub)) else attr.lookup sub := by
    induction names generalizing attr with
    | nil => simp
    | cons name names induction =>
      obtain ⟨absent, nodup⟩ := List.nodup_cons.1 nodup
      rw [List.foldl_cons, induction nodup]
      by_cases same : sub = name
      · subst same
        rw [if_neg absent, if_pos List.mem_cons_self]
        cases found : attr.lookup sub with
        | none => simp [VectorAttribute.rewriteSub, VectorAttribute.vectorValue, found]
        | some value =>
          by_cases empty : value = ""
          · simp [VectorAttribute.rewriteSub, VectorAttribute.vectorValue, found, changed, empty]
          · cases rewritten : change value <;> simp [VectorAttribute.rewriteSub, VectorAttribute.vectorValue,
              VectorAttribute.replace, found, changed, empty, rewritten]
      · have kept : (VectorAttribute.rewriteSub change attr name).lookup sub = attr.lookup sub := by
          unfold VectorAttribute.rewriteSub
          split
          · rfl
          · cases change (attr.vectorValue name) with
            | none => rfl
            | some value => exact AList.lookup_insert_ne same
        rw [kept]
        simp [same]
  simpa [VectorAttribute.rewrite] using general _ (subs.sort_nodup (· ≤ ·)) attr

theorem read_rewrite (subs : Finset String) (attr : Attribute) (place : Option String) :
    (attr.rewrite change subs).read place =
      if Covers subs place then (attr.read place).map (changed change place) else attr.read place := by
  cases attr with
  | single value =>
    cases place with
    | none => by_cases simple : subs = ∅ <;> simp [Attribute.rewrite, Attribute.read, Covers, changed, simple]
    | some sub => simp [Attribute.rewrite, Attribute.read]
  | vector attr =>
    cases place with
    | none => simp [Attribute.rewrite, Attribute.read]
    | some sub =>
      by_cases simple : subs = ∅
      · simp [Attribute.rewrite, Attribute.read, Covers, simple]
      · by_cases member : sub ∈ subs <;> simp [Attribute.rewrite, Attribute.read, Covers, simple, member, lookup_rewrite]

def Template.rewriteRow (eas : EncryptedAttributes) (row : String × Attribute) :
    String × Attribute :=
  (row.1, (eas.lookup row.1).elim row.2 (row.2.rewrite change))

theorem Template.rewrite_eq (eas : EncryptedAttributes) (tmpl : Template) :
    tmpl.rewrite change eas = ⟨tmpl.attributes.map (rewriteRow change eas)⟩ := by
  have general (entries : List (Σ _ : String, Finset String)) (nodup : entries.NodupKeys) (tmpl : Template) :
      entries.foldl (fun tmpl ea => (⟨tmpl.attributes.map fun row =>
          if row.1 = ea.1 then (row.1, row.2.rewrite change ea.2) else row⟩ : Template)) tmpl =
        ⟨tmpl.attributes.map fun row => (row.1, (entries.dlookup row.1).elim row.2 (row.2.rewrite change))⟩ := by
    induction entries generalizing tmpl with
    | nil => simp
    | cons ea rest induction =>
      obtain ⟨absent, nodup⟩ := List.nodupKeys_cons.1 nodup
      rw [List.foldl_cons, induction nodup]
      simp only [List.map_map, Template.mk.injEq]
      refine List.map_congr_left fun row _ => ?_
      obtain ⟨name, attr⟩ := row
      obtain ⟨other, subs⟩ := ea
      by_cases same : name = other
      · subst same
        rw [Function.comp_apply, if_pos rfl, List.dlookup_eq_none.2 absent, List.dlookup_cons_eq]
        rfl
      · rw [Function.comp_apply, if_neg same, List.dlookup_cons_ne rest ⟨other, subs⟩ same]
  exact general eas.entries eas.nodupKeys tmpl

end

/-- The values of the two are the same, row by row and place by place. -/
def Template.SameAttributes (tmpl other : Template) : Prop :=
  List.Forall₂ (fun row other => row.1 = other.1 ∧ ∀ place, row.2.read place = other.2.read place)
    tmpl.attributes other.attributes

def Template.SameOutside (eas : EncryptedAttributes) (tmpl other : Template) : Prop :=
  List.Forall₂ (fun row other => row.1 = other.1 ∧ ∀ place,
    (¬ ∃ subs, eas.lookup row.1 = some subs ∧ Covers subs place) → row.2.read place = other.2.read place)
    tmpl.attributes other.attributes

def Template.Holds (tmpl : Template) (eas : EncryptedAttributes) (value : String) : Prop :=
  ∃ row ∈ tmpl.attributes, ∃ subs place, eas.lookup row.1 = some subs ∧ Covers subs place ∧
    row.2.read place = some value ∧ ¬ (place ≠ none ∧ value = "")

section Recovery

variable {cipher : Cipher} {key value : String} {eas : EncryptedAttributes} {tmpl : Template} {place : Option String}

theorem decrypt_empty (nothing : cipher.decodeBlock "" = []) : cipher.aes256cbcDecrypt key "" = none := by
  simp [Cipher.aes256cbcDecrypt, Cipher.base64Decode, nothing]

theorem changed_recovered_iff (nothing : cipher.decodeBlock "" = [])
    (inverse : cipher.Inverts key) (filled : ¬ (place ≠ none ∧ value = "")) (times : ℕ) :
    changed (cipher.aes256cbcDecrypt key) place ((changed (cipher.encrypted key) place)^[times + 1] value) = value ↔
      cipher.aes256cbcDecrypt key value = none ∨ cipher.aes256cbcDecrypt key value = some value := by
  cases already : cipher.aes256cbcDecrypt key value with
  | some plain =>
    have kept : changed (cipher.encrypted key) place value = value := by
      simp [changed, Cipher.encrypted, already]
    rw [Function.iterate_fixed kept]
    simp [changed, filled, already]
  | none =>
    obtain ⟨crypted, encrypts, decrypts⟩ := inverse value
    have written : crypted ≠ "" := by
      rintro rfl
      rw [decrypt_empty nothing] at decrypts
      cases decrypts
    have first : changed (cipher.encrypted key) place value = crypted := by
      simp [changed, filled, Cipher.encrypted, already, encrypts]
    have kept : changed (cipher.encrypted key) place crypted = crypted := by
      simp [changed, Cipher.encrypted, decrypts]
    rw [Function.iterate_succ_apply, first, Function.iterate_fixed kept]
    simp [changed, written, decrypts]

theorem read_rewriteRow (change : String → Option String) (row : String × Attribute) (place : Option String) :
    (Template.rewriteRow change eas row).2.read place =
      if ∃ subs, eas.lookup row.1 = some subs ∧ Covers subs place then (row.2.read place).map (changed change place)
      else row.2.read place := by
  cases found : eas.lookup row.1 with
  | none => simp [Template.rewriteRow, found]
  | some subs => simp [Template.rewriteRow, found, read_rewrite]

theorem iterate_encrypt (keyed : key ≠ "") (times : ℕ) : (Template.encrypt cipher key eas)^[times] tmpl =
      ⟨tmpl.attributes.map (Template.rewriteRow (cipher.encrypted key) eas)^[times]⟩ := by
  induction times with
  | zero => simp
  | succ times induction =>
    rw [Function.iterate_succ_apply', induction, Template.encrypt, if_neg keyed, Template.rewrite_eq,
      List.map_map, ← Function.iterate_succ']

theorem read_iterate (change : String → Option String) (row : String × Attribute) (place : Option String) (times : ℕ) :
    ((Template.rewriteRow change eas)^[times] row).1 = row.1 ∧
      ((Template.rewriteRow change eas)^[times] row).2.read place =
        if ∃ subs, eas.lookup row.1 = some subs ∧ Covers subs place then
          (row.2.read place).map (changed change place)^[times] else row.2.read place := by
  induction times with
  | zero => simp
  | succ times induction =>
    obtain ⟨name, read⟩ := induction
    rw [Function.iterate_succ_apply']
    refine ⟨name, ?_⟩
    rw [read_rewriteRow, name, read]
    split
    · rw [Option.map_map, ← Function.iterate_succ']
    · rfl

theorem decrypt_iterate (keyed : key ≠ "") (times : ℕ) :
    ((Template.encrypt cipher key eas)^[times] tmpl).decrypt cipher key eas =
      ⟨tmpl.attributes.map fun row => Template.rewriteRow (cipher.aes256cbcDecrypt key) eas
        ((Template.rewriteRow (cipher.encrypted key) eas)^[times] row)⟩ := by
  rw [Template.decrypt, if_neg keyed, Template.rewrite_eq, iterate_encrypt keyed, List.map_map]
  rfl

theorem sameOutside_stages (keyed : key ≠ "") (times : ℕ) :
    ((Template.encrypt cipher key eas)^[times] tmpl).SameOutside eas tmpl ∧
      (((Template.encrypt cipher key eas)^[times] tmpl).decrypt cipher key eas).SameOutside eas tmpl := by
  rw [decrypt_iterate keyed, iterate_encrypt keyed]
  simp only [Template.SameOutside, List.forall₂_map_left_iff, List.forall₂_same]
  constructor <;> intro row _
  · obtain ⟨name, -⟩ := @read_iterate eas (cipher.encrypted key) row none times
    refine ⟨name, fun place outside => ?_⟩
    rw [name] at outside
    rw [(read_iterate (cipher.encrypted key) row place times).2, if_neg outside]
  · obtain ⟨name, -⟩ := @read_iterate eas (cipher.encrypted key) row none times
    refine ⟨name, fun place outside => ?_⟩
    change ¬ ∃ subs, eas.lookup ((Template.rewriteRow (cipher.encrypted key) eas)^[times] row).1 = some subs ∧ _ at outside
    rw [read_rewriteRow, if_neg outside]
    rw [name] at outside
    rw [(read_iterate (cipher.encrypted key) row place times).2, if_neg outside]

/-- After any number of encryptions a decryption gives back what was set, and nothing else has
changed in between, exactly where no value that was set can itself be decrypted. -/
theorem decrypt_encrypt_iff (cipher : Cipher) (key : String) (eas : EncryptedAttributes) (tmpl : Template)
    (keyed : key ≠ "") (nothing : cipher.decodeBlock "" = []) (inverse : cipher.Inverts key) :
    (∀ times, (((Template.encrypt cipher key eas)^[times + 1] tmpl).decrypt cipher key eas).SameAttributes tmpl ∧
      ((Template.encrypt cipher key eas)^[times] tmpl).SameOutside eas tmpl ∧
      (((Template.encrypt cipher key eas)^[times + 1] tmpl).decrypt cipher key eas).SameOutside eas tmpl) ↔
      ∀ value, tmpl.Holds eas value →
        cipher.aes256cbcDecrypt key value = none ∨ cipher.aes256cbcDecrypt key value = some value := by
  have stages (times : ℕ) := @sameOutside_stages cipher key eas tmpl keyed times
  have read (row : String × Attribute) (place : Option String) (times : ℕ) :
      (Template.rewriteRow (cipher.aes256cbcDecrypt key) eas
        ((Template.rewriteRow (cipher.encrypted key) eas)^[times] row)).2.read place =
        if ∃ subs, eas.lookup row.1 = some subs ∧ Covers subs place then
          (row.2.read place).map fun value => changed (cipher.aes256cbcDecrypt key) place
            ((changed (cipher.encrypted key) place)^[times] value)
        else row.2.read place := by
    obtain ⟨name, read⟩ := @read_iterate eas (cipher.encrypted key) row place times
    rw [read_rewriteRow, name, read]
    split
    · rw [Option.map_map]
      rfl
    · rfl
  constructor
  · rintro recovered value ⟨row, member, subs, place, found, covers, holds, filled⟩
    have same := (recovered 0).1
    simp only [decrypt_iterate keyed, Template.SameAttributes, List.forall₂_map_left_iff, List.forall₂_same] at same
    have back := (same row member).2 place
    rw [read, if_pos ⟨subs, found, covers⟩, holds] at back
    exact (changed_recovered_iff nothing inverse filled 0).mp (Option.some.inj back)
  · intro plain times
    refine ⟨?_, (stages times).1, (stages (times + 1)).2⟩
    simp only [decrypt_iterate keyed, Template.SameAttributes, List.forall₂_map_left_iff, List.forall₂_same]
    intro row member
    refine ⟨(@read_iterate eas (cipher.encrypted key) row none (times + 1)).1, fun place => ?_⟩
    rw [read]
    split
    next covered =>
      obtain ⟨subs, found, covers⟩ := covered
      cases holds : row.2.read place with
      | none => rfl
      | some value =>
        by_cases skipped : place ≠ none ∧ value = ""
        · have kept (change : String → Option String) : changed change place value = value := by
            simp [changed, skipped]
          rw [Option.map_some, Function.iterate_fixed (kept _), kept]
        · exact congrArg some ((changed_recovered_iff nothing inverse skipped times).mpr
            (plain value ⟨row, member, subs, place, found, covers, holds, skipped⟩))
    next => rfl

end Recovery

def secretBytes : List Char :=
  [87, 109, 79, 195, 70, 62, 97, 225, 129, 247, 109, 8, 132, 171, 98, 12].map Char.ofNat

/-- A cipher that writes `secret` as the real one does under the key of the example. -/
def sampleCipher : Cipher where
  encodeBlock bytes := some (if bytes.toList = secretBytes then "V21Pw0Y+YeGB920IhKtiDA==" else "#" ++ bytes ++ ".")
  decodeBlock text :=
    if text = "V21Pw0Y+YeGB920IhKtiDA==" then secretBytes ++ [Char.ofNat 0, Char.ofNat 0]
    else if text.toList.head? = some '#' then text.toList.tail.dropLast else []
  cbcEncrypt _ plain := if plain = "secret" then String.ofList secretBytes else "#" ++ plain
  cbcDecrypt _ bytes :=
    if bytes.toList = secretBytes then some "secret"
    else if bytes.toList.head? = some '#' then some (String.ofList bytes.toList.tail) else none

def sampleKey : String := "0123456789abcdef0123456789abcdef"

def sampleTemplate (password : String) : Template := ⟨[("PASSWORD", .single password)]⟩

def samplePasswords : EncryptedAttributes := AList.singleton "PASSWORD" ∅

theorem sampleCipher_inverts : sampleCipher.Inverts sampleKey := by
  intro plain
  by_cases secret : plain = "secret"
  · subst secret
    exact ⟨"V21Pw0Y+YeGB920IhKtiDA==", by decide +kernel, by decide +kernel⟩
  · have other : ('#' :: plain.toList) ≠ secretBytes := by
      intro same
      have heads := congrArg List.head? same
      rw [List.head?_cons] at heads
      exact absurd heads (by decide)
    have marked : "#" ++ ("#" ++ plain) ++ "." ≠ "V21Pw0Y+YeGB920IhKtiDA==" := by
      intro same
      have heads := congrArg (fun text => text.toList.head?) same
      simp at heads
    have last : ('#' :: (plain.toList ++ ['.'])).dropLast = '#' :: plain.toList := by
      rw [← List.cons_append, List.dropLast_concat]
    refine ⟨"#" ++ ("#" ++ plain) ++ ".", ?_, ?_⟩
    · simp [Cipher.aes256cbcEncrypt, sampleCipher, secret, other]
    · simp [Cipher.aes256cbcDecrypt, Cipher.base64Decode, sampleCipher, other, marked, last]

theorem decrypt_encrypt_secret : (((Template.encrypt sampleCipher sampleKey samplePasswords)^[2]
      (sampleTemplate "secret")).decrypt sampleCipher sampleKey samplePasswords).SameAttributes (sampleTemplate "secret") := by
  have recovered := (decrypt_encrypt_iff sampleCipher sampleKey samplePasswords (sampleTemplate "secret")
    (by decide) (by decide) sampleCipher_inverts).mpr ?_
  · exact (recovered 1).1
  · rintro value ⟨row, member, subs, place, found, covers, holds, -⟩
    obtain rfl := List.mem_singleton.mp member
    cases place with
    | none =>
      obtain rfl := Option.some.inj holds
      exact .inl (by decide +kernel)
    | some sub => cases holds

/-- Who gives an object the encrypted text of another one is told what it stands for. -/
theorem others_secret_revealed : sampleCipher.Inverts sampleKey ∧
    ((sampleTemplate "V21Pw0Y+YeGB920IhKtiDA==").encrypt sampleCipher sampleKey samplePasswords).decrypt
      sampleCipher sampleKey samplePasswords = sampleTemplate "secret" ∧
    ¬ (sampleTemplate "secret").SameAttributes (sampleTemplate "V21Pw0Y+YeGB920IhKtiDA==") := by
  refine ⟨sampleCipher_inverts, by decide +kernel, fun same => ?_⟩
  have values := (List.forall₂_cons.mp same).1.2 none
  exact absurd values (by decide)

end OpenNebula.Common
