import CallBindings.Module.Basic
import CallBindings.Module.Render
import CallBindings.Proofs.Contract.Scoped

set_option autoImplicit false

/-! # The lines of a module

A module is written line by line, and what is written in a line comes from a contract, from a
reference or from the timestamp. None of it holds a line feed, so the lines of a module come back
from its text.
-/

namespace CallBindings

open Text

/-! ## Modules of contracts -/

/-- What assembling the contracts of a batch for a transport makes sure of. -/
structure GeneratedModule.Gathers (m : GeneratedModule) (transport : Text) (cs : List Contract) :
    Prop where
  transport : m.transport = transport
  contracts : List.Forall₂ Contract.CompilesTo cs m.contracts
  references : m.references.Nodup
  parameters : m.typeParameters = m.references.map typeName

namespace GeneratedModule

variable {m : GeneratedModule} {transport : Text} {cs : List Contract}

/-- Sound contracts with distinct ids and a response for success each make up a module. -/
theorem generate_of_sound {registry : Registry} (workers : ℤ) (generatedAt : Timestamp)
    (ht : registry.lists transport = true) (hsound : ∀ c ∈ cs, c.Sound)
    (hsuccess : ∀ c ∈ cs, c.success?.isSome = true) (hids : (cs.map (·.id)).Nodup) :
    ∃ m, (generate registry transport workers generatedAt cs).2 = .ok m ∧
      m.Gathers transport cs := by
  obtain ⟨ks, hks, hcks⟩ := Compiled.batch_of_sound workers hsound hsuccess hids
  rw [generate]
  generalize Compiled.batch workers cs = batch at hks
  obtain ⟨notices, result⟩ := batch
  cases hks
  simp only [assemble, ht, if_true]
  exact ⟨_, rfl, rfl, hcks, nodup_distinct _, rfl⟩

theorem eq_of_assemble {registry : Registry} {generatedAt : Timestamp} {ks : List Compiled}
    (h : assemble registry transport generatedAt ks = .ok m) :
    m = ⟨ks, distinct (ks.flatMap (·.references)), transport, generatedAt,
      (distinct (ks.flatMap (·.references))).map typeName⟩ := by
  rw [assemble] at h
  split at h
  · exact (Except.ok.inj h).symm
  · cases h

/-- A module is assembled from what its batch compiles to. -/
theorem exists_of_generate {registry : Registry} {workers : ℤ} {generatedAt : Timestamp}
    (h : (generate registry transport workers generatedAt cs).2 = .ok m) :
    ∃ ks, (Compiled.batch workers cs).2 = .ok ks ∧
      assemble registry transport generatedAt ks = .ok m := by
  rw [generate] at h
  split at h
  · cases h
  · rename_i notices ks hbatch
    refine ⟨ks, by rw [hbatch], ?_⟩
    split at h
    · cases h
    · cases h
      assumption

/-- What compiled contracts are assembled to gathers them. -/
theorem gathers_of_assemble {registry : Registry} {generatedAt : Timestamp} {ks : List Compiled}
    (hks : List.Forall₂ Contract.CompilesTo cs ks)
    (h : assemble registry transport generatedAt ks = .ok m) : m.Gathers transport cs := by
  obtain rfl := eq_of_assemble h
  exact ⟨rfl, hks, nodup_distinct _, rfl⟩

/-- A batch that compiles is assembled for every registered transport. -/
theorem exists_assemble {registry : Registry} {workers : ℤ} (generatedAt : Timestamp)
    {ks : List Compiled} (hbatch : (Compiled.batch workers cs).2 = .ok ks)
    (hlists : registry.lists transport = true) :
    ∃ m, assemble registry transport generatedAt ks = .ok m ∧ m.Gathers transport cs := by
  obtain ⟨m, hm⟩ : ∃ m, assemble registry transport generatedAt ks = .ok m :=
    ⟨_, by rw [assemble, if_pos hlists]⟩
  have hks := (Compiled.yields_of_batch hbatch).imp fun _ _ => Contract.Yields.compilesTo
  exact ⟨m, hm, gathers_of_assemble hks hm⟩

theorem gathers_of_generate {registry : Registry} {workers : ℤ} {generatedAt : Timestamp}
    (hsound : ∀ c ∈ cs, c.Sound)
    (h : (generate registry transport workers generatedAt cs).2 = .ok m) :
    m.Gathers transport cs := by
  obtain ⟨ks, hks, hm⟩ := exists_of_generate h
  refine gathers_of_assemble ((Compiled.written_of_batch hsound hks).imp ?_) hm
  rintro c k ⟨hc, success, hs, rfl⟩
  exact Contract.compilesTo_written hc hs

theorem Gathers.compilesTo (h : m.Gathers transport cs) {k : Compiled} (hk : k ∈ m.contracts) :
    ∃ c ∈ cs, c.CompilesTo k := exists_of_forall₂ h.contracts hk

theorem Gathers.isIdentifier (h : m.Gathers transport cs) {name : Text}
    (hname : name ∈ m.typeParameters) : name.isIdentifier = true := by
  rw [h.parameters] at hname
  obtain ⟨id, -, rfl⟩ := List.mem_map.mp hname
  exact isIdentifier_typeName id

/-! ## The lines one by one -/

/-- The lines of the contracts in a record class, or the one that stands for none. -/
def recordLines (m : GeneratedModule) (wrapper : Text) : List Text :=
  if m.contracts.isEmpty then [indent ++ ofString "pass"] else m.contracts.map (entryLine wrapper)

/-- The line that begins a record class. -/
def classLine (m : GeneratedModule) (name : Text) : Text :=
  ofString "class " ++ name ++ ofString "(TypedDict" ++
    m.parameterList (ofString ", Generic") (ofString "") ++ ofString "):"

/-- The line that describes a record class. -/
def docLine (doc : Text) : Text := indent ++ ofString "\"\"\"" ++ doc ++ ofString "\"\"\""

/-- The lines of the header that are the same in every module. -/
def importLines : List Text :=
  [ofString "from __future__ import annotations", [],
    ofString "from typing import Any, Dict, Generic, List, Literal, Tuple, TypeVar, Union",
    ofString "from typing_extensions import Never, NotRequired, TypedDict",
    ofString "from contractbind.runtime import Binding, ContractTypes, DispatchOptions, bind"]

theorem mapLines_eq (m : GeneratedModule) (name wrapper doc : Text) :
    m.mapLines name wrapper doc =
      [] :: m.classLine name :: docLine doc :: [] :: (m.recordLines wrapper ++ [[]]) := rfl

section Each

variable {P : Text → Prop}

theorem forall_mem_headerLines
    (hgenerated : P (ofString "# Generated by contractbind at " ++ m.generatedAt.iso ++
      ofString ". Do not edit."))
    (himport : ∀ line ∈ importLines, P line)
    (htransport : P (ofString "TRANSPORT = " ++ m.transport.quote)) :
    ∀ line ∈ m.headerLines, P line := by
  simp only [importLines, List.forall_mem_cons] at himport
  obtain ⟨hfuture, hblank, htyping, hextensions, hruntime, -⟩ := himport
  simp only [headerLines, List.forall_mem_cons]
  exact ⟨hgenerated, hfuture, hblank, htyping, hblank, hextensions, hblank, hruntime, hblank,
    htransport, hblank, by simp⟩

theorem forall_mem_referenceLines (hblank : P [])
    (hparameter : ∀ name ∈ m.typeParameters, P (parameterLine name))
    (hclass : P (ofString "class ModelReferences" ++
      m.parameterList (ofString "(Generic") (ofString ")") ++ ofString ":"))
    (hdoc : P (docLine
      (ofString "Concrete types supplied by the consumer, one per referenced model id."))) :
    ∀ line ∈ m.referenceLines, P line := by
  have hseparator : ∀ line ∈ (if m.typeParameters.isEmpty then [] else [[]] : List Text),
      P line := by
    split
    · exact List.forall_mem_nil _
    · exact List.forall_mem_singleton.mpr hblank
  rw [referenceLines]
  refine List.forall_mem_append.mpr
    ⟨List.forall_mem_append.mpr ⟨List.forall_mem_map.mpr hparameter, hseparator⟩, ?_⟩
  simp only [List.forall_mem_cons]
  exact ⟨hblank, hclass, hdoc, hblank, by simp⟩

theorem forall_mem_recordLines {wrapper : Text} (hpass : P (indent ++ ofString "pass"))
    (hentry : ∀ k ∈ m.contracts, P (entryLine wrapper k)) :
    ∀ line ∈ m.recordLines wrapper, P line := by
  rw [recordLines]
  split
  · exact List.forall_mem_singleton.mpr hpass
  · exact List.forall_mem_map.mpr hentry

theorem forall_mem_mapLines {name wrapper doc : Text} (hblank : P [])
    (hclass : P (m.classLine name)) (hdoc : P (docLine doc))
    (hrecord : ∀ line ∈ m.recordLines wrapper, P line) :
    ∀ line ∈ m.mapLines name wrapper doc, P line := by
  rw [mapLines_eq]
  simp only [List.forall_mem_cons, List.forall_mem_append]
  exact ⟨hblank, hclass, hdoc, hblank, hrecord, hblank, by simp⟩

theorem forall_mem_factoryLines (hblank : P [])
    (hdefinition : P (ofString "def create_bindings(options: DispatchOptions) -> Bindings" ++
      m.parameterList (ofString "") (ofString "") ++ ofString ":"))
    (hopening : P (indent ++ ofString "return \x7b"))
    (hentry : ∀ k ∈ m.contracts, P (factoryLine k)) (hclosing : P (indent ++ ofString "\x7d")) :
    ∀ line ∈ m.factoryLines, P line := by
  rw [factoryLines]
  refine List.forall_mem_append.mpr ⟨List.forall_mem_append.mpr ⟨?_,
    List.forall_mem_map.mpr hentry⟩, List.forall_mem_singleton.mpr hclosing⟩
  simp only [List.forall_mem_cons]
  exact ⟨hblank, hdefinition, hopening, by simp⟩

end Each

/-! ## What lines are woven from -/

/-- The texts of a contract that are written as they are. -/
def partsOf (k : Compiled) : List Text := [k.id, k.request, k.success, k.exceptions, k.binding]

/-- The texts that are written as they are: the type parameters and those of the contracts. -/
def parts (m : GeneratedModule) : List Text := m.typeParameters ++ m.contracts.flatMap partsOf

theorem subset_parts {k : Compiled} (hk : k ∈ m.contracts) : partsOf k ⊆ m.parts :=
  fun _ ht => List.mem_append_right _ (List.mem_flatMap.mpr ⟨k, hk, ht⟩)

theorem isPrintable_iso (t : Timestamp) : IsPrintable t.iso := by
  have hn : ∀ width n, IsPrintable (ofNatPadded width n) := isPrintable_ofNatPadded
  have hcolon : IsPrintable (ofString ":") := by decide
  have hdash : IsPrintable (ofString "-") := by decide
  have hmicrosecond : IsPrintable (if t.microsecond = 0 then []
      else ofString "." ++ ofNatPadded 6 t.microsecond) := by
    split
    · decide
    · exact IsPrintable.append (by decide) (hn 6 _)
  have hoffset : ∀ offset, IsPrintable (Timestamp.offsetText offset) := by
    intro offset
    rw [Timestamp.offsetText]
    refine IsPrintable.append (IsPrintable.append (IsPrintable.append
      (IsPrintable.append ?_ (hn 2 _)) hcolon) (hn 2 _)) ?_
    · split <;> decide
    · split
      · decide
      · exact hcolon.append (hn 2 _)
  have hdate := (((hn 4 t.year).append hdash).append (hn 2 t.month)).append hdash
  have hday := (hdate.append (hn 2 t.day)).append (by decide : IsPrintable (ofString "T"))
  have htime := (((hday.append (hn 2 t.hour)).append hcolon).append (hn 2 t.minute)).append hcolon
  refine ((htime.append (hn 2 t.second)).append hmicrosecond).append ?_
  cases t.offset with
  | none => exact (by decide : IsPrintable [])
  | some offset => exact hoffset offset

theorem woven_parameterList {before after : Text} (hbefore : IsPrintable before)
    (hafter : IsPrintable after) : Woven m.parts (m.parameterList before after) := by
  have hnames : Woven m.parts (join (ofString ", ") m.typeParameters) :=
    woven_join (by decide) fun name hname => .name (List.mem_append_left _ hname)
  rw [parameterList]
  split
  · exact .printable (by decide)
  · exact .append (.append (.append (.printable (hbefore.append (by decide))) hnames)
      (.printable (by decide))) (.printable hafter)

theorem isPrintable_headerLines (m : GeneratedModule) : ∀ line ∈ m.headerLines, IsPrintable line := by
  have hgenerated : IsPrintable (ofString "# Generated by contractbind at " ++ m.generatedAt.iso ++
      ofString ". Do not edit.") :=
    IsPrintable.append (IsPrintable.append (by decide) (isPrintable_iso _)) (by decide)
  have htransport : IsPrintable (ofString "TRANSPORT = " ++ m.transport.quote) :=
    IsPrintable.append (by decide) (isPrintable_quote _)
  exact forall_mem_headerLines hgenerated (by decide) htransport

theorem woven_referenceLines : ∀ line ∈ m.referenceLines, Woven m.parts line := by
  refine forall_mem_referenceLines (.printable (by decide)) (fun name hname => ?_) ?_
    (.printable (by decide))
  · have hin : Woven m.parts name := .name (List.mem_append_left _ hname)
    exact .append (.append (.append hin (.printable (by decide))) hin) (.printable (by decide))
  · exact .append (.append (.printable (by decide))
      (woven_parameterList (by decide) (by decide))) (.printable (by decide))

theorem woven_entryLine {wrapper : Text} (hwrapper : IsPrintable wrapper) (k : Compiled) :
    Woven (partsOf k) (entryLine wrapper k) := by
  have hid : Woven (partsOf k) k.id := .name (.head _)
  have hrequest : Woven (partsOf k) k.request := .name (.tail _ (.head _))
  have hsuccess : Woven (partsOf k) k.success := .name (.tail _ (.tail _ (.head _)))
  have hexceptions : Woven (partsOf k) k.exceptions :=
    .name (.tail _ (.tail _ (.tail _ (.head _))))
  have hcomma : Woven (partsOf k) (ofString ", ") := .printable (by decide)
  rw [entryLine]
  exact .append (.append (.append (.append (.append (.append (.append (.append (.append (.append
    (.printable (by decide)) hid) (.printable (by decide))) (.printable hwrapper))
    (.printable (by decide))) hrequest) hcomma) hsuccess) hcomma) hexceptions)
    (.printable (by decide))

theorem woven_mapLines {name wrapper doc : Text} (hname : IsPrintable name)
    (hwrapper : IsPrintable wrapper) (hdoc : IsPrintable doc) :
    ∀ line ∈ m.mapLines name wrapper doc, Woven m.parts line := by
  have hclass : Woven m.parts (m.classLine name) :=
    .append (.append (.append (.append (.printable (by decide)) (.printable hname))
      (.printable (by decide))) (woven_parameterList (by decide) (by decide)))
      (.printable (by decide))
  have hquoted : IsPrintable (docLine doc) :=
    IsPrintable.append (IsPrintable.append (by decide) hdoc) (by decide)
  exact forall_mem_mapLines (.printable (by decide)) hclass (.printable hquoted)
    (forall_mem_recordLines (.printable (by decide)) fun k hk =>
      (woven_entryLine hwrapper k).mono (subset_parts hk))

theorem woven_factoryLine (k : Compiled) : Woven (partsOf k) (factoryLine k) := by
  have hbinding : Woven (partsOf k) k.binding :=
    .name (.tail _ (.tail _ (.tail _ (.tail _ (.head _)))))
  rw [factoryLine]
  exact .append (.append (.append (.append (.append (.printable (by decide))
    (.printable (by decide))) (.printable (isPrintable_quote _))) (.printable (by decide)))
    hbinding) (.printable (by decide))

theorem woven_factoryLines : ∀ line ∈ m.factoryLines, Woven m.parts line := by
  have hdefinition : Woven m.parts (
      ofString "def create_bindings(options: DispatchOptions) -> Bindings" ++
      m.parameterList (ofString "") (ofString "") ++ ofString ":") :=
    .append (.append (.printable (by decide)) (woven_parameterList (by decide) (by decide)))
      (.printable (by decide))
  exact forall_mem_factoryLines (.printable (by decide)) hdefinition (.printable (by decide))
    (fun k hk => (woven_factoryLine k).mono (subset_parts hk)) (.printable (by decide))

/-- **What a module is written with is printable text and its parts.** -/
theorem woven_lines (m : GeneratedModule) : ∀ line ∈ m.lines, Woven m.parts line := by
  rw [lines]
  exact List.forall_mem_append.mpr ⟨List.forall_mem_append.mpr ⟨List.forall_mem_append.mpr
    ⟨List.forall_mem_append.mpr
      ⟨fun line hline => .printable (isPrintable_headerLines m line hline), woven_referenceLines⟩,
      woven_mapLines (by decide) (by decide) (by decide)⟩,
      woven_mapLines (by decide) (by decide) (by decide)⟩, woven_factoryLines⟩

/-! ## Lines hold no line feed -/

theorem isPrintable_bindingText (url method : Text) : IsPrintable (bindingText url method) :=
  IsPrintable.append (IsPrintable.append (IsPrintable.append (IsPrintable.append (by decide)
    (isPrintable_quote _)) (by decide)) (isPrintable_quote _)) (by decide)

theorem Gathers.inLine_parts (h : m.Gathers transport cs) : ∀ t ∈ m.parts, InLine t := by
  intro t ht
  rcases List.mem_append.mp ht with hname | hpart
  · exact inLine_of_isIdentifier (h.isIdentifier hname)
  · obtain ⟨k, hk, ht⟩ := List.mem_flatMap.mp hpart
    obtain ⟨c, -, hck⟩ := h.compilesTo hk
    have hbinding : InLine k.binding := by
      rw [hck.binding]
      exact (isPrintable_bindingText _ _).inLine
    have hparts : ∀ t ∈ partsOf k, InLine t := by
      simp only [partsOf, List.forall_mem_cons]
      exact ⟨inLine_of_isIdentifier hck.isIdentifier, hck.request, hck.success, hck.exceptions,
        hbinding, by simp⟩
    exact hparts t ht

theorem Gathers.inLine_lines (h : m.Gathers transport cs) : ∀ line ∈ m.lines, InLine line :=
  fun line hline => (woven_lines m line hline).inLine h.inLine_parts

/-- The lines of a module are read back from its text, with an empty one behind them. -/
theorem Gathers.splitAt_render (h : m.Gathers transport cs) :
    m.render.splitAt (CodePoint.ofChar '\n') = m.lines ++ [[]] :=
  splitAt_flatMap h.inLine_lines

end GeneratedModule

end CallBindings
