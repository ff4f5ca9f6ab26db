import Mathlib.Tactic
import SyscallFilter.Policy.Reader

/-!
What can be said of everything that a reader gives, whatever the text. A reader that is put together
from others gives no more than they do.
-/

namespace SyscallFilter.Json.Reader

variable {α β δ : Type}

/-- Whatever a reader gives has a property. -/
def Yields (reader : Reader α) (P : α → Prop) : Prop :=
  ∀ text value rest, reader.run text = .ok (value, rest) → P value

/-- Whatever a variant stands for has a property. -/
def Payload.Gives (P : α → Prop) : Payload α → Prop
  | .unit value => P value
  | .code build => ∀ n, P (build n)

namespace Yields

variable {reader : Reader α} {P Q : α → Prop} {R : β → Prop}

theorem anything (reader : Reader α) : Yields reader fun _ => True := fun _ _ _ _ => trivial

theorem pure {value : α} (h : P value) : Yields (pure value) P := by
  intro text found rest hr
  obtain ⟨hvalue, -⟩ := Prod.mk.inj (Except.ok.inj hr)
  rwa [← hvalue]

theorem throw (error : ReadError) : Yields (throw error : Reader α) P := by
  intro text value rest hr
  nomatch hr

theorem bind {second : α → Reader β} (h : Yields reader P) (hs : ∀ a, P a → Yields (second a) R) :
    Yields (reader >>= second) R := by
  intro text value rest hr
  rw [StateT.run_bind] at hr
  obtain ⟨⟨a, between⟩, hfirst, hsecond⟩ := exists_of_bind_eq_ok hr
  exact hs a (h text a between hfirst) between value rest hsecond

theorem after {second : α → Reader β} (hs : ∀ a, Yields (second a) R) :
    Yields (reader >>= second) R :=
  (anything reader).bind fun a _ => hs a

theorem map {f : α → β} (h : Yields reader P) (hf : ∀ a, P a → R (f a)) :
    Yields (f <$> reader) R := by
  rw [map_eq_pure_bind]
  exact h.bind fun a ha => pure (hf a ha)

/-- A value of another type than the expected one is not read as anything. -/
theorem mismatch (expected : String) : Yields (mismatch expected) P := by
  rw [Reader.mismatch]
  apply after
  intro c
  split
  · exact after fun _ => throw _
  · exact after fun _ => throw _
  · exact after fun _ => throw _
  · exact after fun _ => throw _
  · exact throw _
  · exact throw _
  · split_ifs
    · exact after fun _ => throw _
    · exact throw _
  · exact throw _

theorem optional (h : Yields reader P) : Yields (Reader.optional reader) fun o => ∀ a ∈ o, P a := by
  rw [Reader.optional]
  apply after
  intro c
  split
  · exact after fun _ => pure fun _ ha => nomatch ha
  · refine h.map fun a ha found hm => ?_
    rwa [← Option.some.inj hm]

theorem elements (h : Yields reader P) (first : Bool) (bound : List Char) :
    Yields (Reader.elements reader first bound) fun values => ∀ a ∈ values, P a := by
  induction bound generalizing first with
  | nil => exact throw _
  | cons _ bound ih =>
    rw [Reader.elements]
    apply after
    intro more
    split_ifs
    · refine h.bind fun a ha => (ih false).bind fun values hvalues => pure ?_
      exact List.forall_mem_cons.mpr ⟨ha, hvalues⟩
    · exact after fun _ => pure fun _ hm => nomatch hm

theorem sequence (h : Yields reader P) :
    Yields (Reader.sequence reader) fun values => ∀ a ∈ values, P a := by
  rw [Reader.sequence]
  apply after
  intro c
  split
  · exact after fun _ => after fun text => h.elements true text
  · exact mismatch _

theorem payloadOf {variants : List (String × Payload α)} (h : ∀ v ∈ variants, v.2.Gives P)
    (name : String) : Yields (payloadOf variants name) (Payload.Gives P) := by
  rw [Reader.payloadOf]
  split
  · next payload hl =>
    obtain ⟨before, behind, he, -⟩ := List.lookup_eq_some_iff.mp hl
    apply pure
    apply h (name, payload)
    rw [he]
    exact List.mem_append_right _ List.mem_cons_self
  · exact throw _

/-- A variant is read as what one of the names stands for. -/
theorem variant {variants : List (String × Payload α)} (h : ∀ v ∈ variants, v.2.Gives P) :
    Yields (variant variants) P := by
  rw [Reader.variant]
  apply after
  intro c
  split
  · apply after
    intro name
    refine (payloadOf h name).bind fun payload hpayload => ?_
    cases payload with
    | unit value => exact pure hpayload
    | code _ => exact throw _
  · apply after
    intro _
    apply after
    intro name
    refine (payloadOf h name).bind fun payload hpayload => ?_
    apply after
    intro _
    -- Whatever was read, it comes out behind the closing brace or not at all.
    cases payload with
    | unit value =>
      have hvalue : P value := hpayload
      apply after
      intro _
      refine (pure hvalue).bind fun found hfound => after fun c => ?_
      split
      · exact after fun _ => pure hfound
      · exact throw _
    | code build =>
      have hcode : Yields (build <$> uint16) P := (anything _).map fun n _ => hpayload n
      refine hcode.bind fun found hfound => after fun c => ?_
      split
      · exact after fun _ => pure hfound
      · exact throw _
  · exact throw _

theorem members {fields : List (FieldReader δ)} {D : δ → Prop}
    (h : ∀ field ∈ fields, ∀ draft, D draft → Yields (field.read draft) D) (first : Bool)
    {draft : δ} (hd : D draft) (fuel : Nat) : Yields (members fields first draft fuel) D := by
  induction fuel generalizing first draft with
  | zero => exact throw _
  | succ fuel ih =>
    rw [Reader.members]
    apply after
    intro more
    split_ifs
    · apply after
      intro name
      split
      · exact throw _
      · next field hf =>
        split_ifs
        · exact throw _
        · apply after
          intro _
          refine (h field (List.mem_of_find?_eq_some hf) draft hd).bind fun next hn => ?_
          exact ih false hn
    · split
      · exact throw _
      · exact after fun _ => pure hd

theorem positional {fields : List (FieldReader δ)} {D : δ → Prop}
    (h : ∀ field ∈ fields, ∀ draft, D draft → Yields (field.read draft) D) (first : Bool)
    {draft : δ} (hd : D draft) : Yields (positional first draft fields) D := by
  induction fields generalizing first draft with
  | nil => exact after fun _ => pure hd
  | cons field fields ih =>
    have hrest := fun other hm => h other (List.mem_cons_of_mem field hm)
    rw [Reader.positional]
    apply after
    intro more
    split_ifs
    · refine (h field List.mem_cons_self draft hd).bind fun next hn => ?_
      exact ih hrest false hn
    · exact throw _
    · exact ih hrest first hd

/-- A record is read as a draft for which every field has done its part. -/
theorem record {fields : List (FieldReader δ)} {D : δ → Prop}
    (h : ∀ field ∈ fields, ∀ draft, D draft → Yields (field.read draft) D) {start : δ}
    (hs : D start) (name : String) : Yields (record name fields start) D := by
  rw [Reader.record]
  apply after
  intro c
  split
  · exact after fun _ => members h true hs _
  · exact after fun _ => positional h true hs
  · exact mismatch _

theorem field {name : String} {required : Bool} {get : δ → Option α} {put : δ → Option α → δ}
    {D : δ → Prop} (h : Yields reader P) (hput : ∀ draft a, D draft → P a → D (put draft (some a)))
    {draft : δ} (hd : D draft) :
    Yields ((FieldReader.of name required reader get put).read draft) D :=
  h.bind fun a ha => pure (hput draft a hd ha)

theorem of_readAll (h : Yields reader P) {text : List Char} {value : α}
    (hr : readAll reader text = .ok value) : P value := by
  rw [readAll] at hr
  split at hr
  · nomatch hr
  · next found rest hrun =>
    split_ifs at hr
    rw [← Except.ok.inj hr]
    exact h text found rest hrun

end Yields

theorem yields_finish {result : Option α} {P : α → Prop} (h : ∀ value ∈ result, P value) :
    Yields (finish result) P := by
  cases result with
  | none => exact Yields.throw _
  | some value => exact Yields.pure (h value rfl)

end SyscallFilter.Json.Reader
