import EnumCompanion.Proofs.Build.Confinement

/-!
# `EnumCompanion.Proofs.Build.Emission`: texts put away one after the other

A directory is asked to hold texts, each under a name of any kind: a name may
lead out of the directory, two names may lead to one file, and a name may lead
nowhere. Paths keep their locations while the tree grows, so what a file holds
in the end can be told from the requests that were fulfilled, by where their
paths lead in the tree that is left.

* `Emitted`: what one request comes to. It puts the text where its path leads,
  or leaves all files alone. `emitted_writeIn` says that it does one of these.
* `Holds`: what texts that were put at paths have made of a tree.
  `Holds.extend` and `Holds.put` are the steps.
* `holds_emitAll`: a sequence of requests, by induction on it.
* `directory_emits`: both together, for the next request after any others.
-/

set_option autoImplicit false

namespace EnumCompanion

open FileTree

/-! ### Requests in a row -/

/-- Asks a host to put texts away one after the other, each under its name, and
gives the answers in order. -/
def Host.emitAll {σ : Type} (h : Host σ) :
    List (String × String) → World σ → List (Option FilePath) × World σ
  | [], w => ([], w)
  | (name, text) :: rest, w =>
    let (answer, w) := h.emit name text w
    let (answers, w) := h.emitAll rest w
    (answer :: answers, w)

namespace Build

/-- The texts that were put away, each with its path, the last one last. -/
def stored (requests : List (String × String)) (answers : List (Option FilePath)) :
    List (FilePath × String) :=
  (requests.zip answers).filterMap fun e => e.2.map fun path => (path, e.1.2)

/-! ### One request -/

/-- What a request to a directory comes to, for its answer. -/
inductive Emitted (directory : FilePath) (name text : String) (before after : FileTree) :
    Option FilePath → Prop where
  /-- The text is where the path leads, and no other file has changed. -/
  | put {l : Location} (located : after.locate (directory.join ⟨name ++ ".rs"⟩) = .ok l)
      (held : after.read? (directory.join ⟨name ++ ".rs"⟩) = some text)
      (others : ∀ k, k ≠ l → after.content? k = before.content? k) :
      Emitted directory name text before after (some (directory.join ⟨name ++ ".rs"⟩))
  /-- No file has changed. -/
  | refused (files : ∀ k, after.content? k = before.content? k) :
      Emitted directory name text before after none

/-- A text is put where its path leads, or not at all. -/
theorem emitted_writeIn (directory : FilePath) (name text : String) (w : World Unit) :
    Emitted directory name text w.tree (Host.writeIn directory name text w).2.tree
      (Host.writeIn directory name text w).1 := by
  obtain ⟨tree, hextends, hrefused | ⟨l, hlocate, hl, hanswer, htree⟩⟩ :=
    writeIn_cases directory name text w
  · rw [hrefused]
    exact .refused hextends.content
  · have hlocate' : (tree.put l (.file (.text text))).locate (Host.pathIn directory name) = .ok l :=
      (put_file_grows _ hl).locate hlocate
    have hcontent : (tree.put l (.file (.text text))).content? l = some (.text text) := by
      rw [content?_put_file, if_pos rfl]
    rw [hanswer, htree]
    refine .put hlocate' (read?_eq_some hlocate' hcontent) fun k hk => ?_
    rw [content?_put_file, if_neg hk, hextends.content]

/-! ### Texts at paths -/

/-- The last text whose path leads to the location. -/
def lastAt? (t : FileTree) (l : Location) (texts : List (FilePath × String)) : Option Content :=
  (texts.filter fun e => t.locate e.1 = .ok l).getLast?.map fun e => .text e.2

/-- What texts that were put at paths, the last one last, have made of a tree. -/
structure Holds (before after : FileTree) (texts : List (FilePath × String)) : Prop where
  grows : before.Grows after
  /-- Each path leads somewhere. -/
  located : ∀ e ∈ texts, ∃ l, after.locate e.1 = .ok l
  /-- A file holds the last text whose path leads to it. Where there is none, the
  file is as it was, if there was one. -/
  content : ∀ l, after.content? l = (lastAt? after l texts).or (before.content? l)

theorem Holds.nothing (t : FileTree) : Holds t t [] where
  grows := .refl t
  located := List.forall_mem_nil _
  content _ := rfl

/-- Where paths lead somewhere, they lead to the same places when the tree has
grown, and so do the last of them. -/
theorem lastAt?_grows {t t' : FileTree} (hgrows : t.Grows t') {texts : List (FilePath × String)}
    (hlocated : ∀ e ∈ texts, ∃ l, t.locate e.1 = .ok l) (l : Location) :
    lastAt? t' l texts = lastAt? t l texts := by
  have hsame : (texts.filter fun e => t'.locate e.1 = .ok l) =
      texts.filter fun e => t.locate e.1 = .ok l := by
    refine List.filter_congr fun e he => ?_
    obtain ⟨k, hk⟩ := hlocated e he
    rw [hk, hgrows.locate hk]
  rw [lastAt?, lastAt?, hsame]

/-- Making directories does not matter. -/
theorem Holds.extend {before t t' : FileTree} {texts : List (FilePath × String)}
    (h : Holds before t texts) (hextends : t.Extends t') : Holds before t' texts where
  grows := h.grows.trans hextends.toGrows
  located e he := by
    obtain ⟨l, hl⟩ := h.located e he
    exact ⟨l, hextends.toGrows.locate hl⟩
  content l := by
    rw [hextends.content, h.content, lastAt?_grows hextends.toGrows h.located]

/-- A text that is written where its path leads is the last one there. -/
theorem Holds.put {before t : FileTree} {texts : List (FilePath × String)}
    (h : Holds before t texts) {p : FilePath} {l : Location} (hlocate : t.locate p = .ok l)
    (hl : t.node? l ≠ some .directory) (text : String) :
    Holds before (t.put l (.file (.text text))) (texts ++ [(p, text)]) := by
  have hgrows : t.Grows (t.put l (.file (.text text))) := put_file_grows _ hl
  have hlocate' := hgrows.locate hlocate
  refine ⟨h.grows.trans hgrows, ?_, ?_⟩
  · intro e he
    rcases List.mem_append.mp he with he | he
    · obtain ⟨k, hk⟩ := h.located e he
      exact ⟨k, hgrows.locate hk⟩
    · obtain rfl := List.mem_singleton.mp he
      exact ⟨l, hlocate'⟩
  · intro k
    rw [content?_put_file]
    by_cases hkl : k = l
    · -- The path of the new text leads here, whatever was here before.
      subst hkl
      simp [lastAt?, hlocate']
    · have hnew : lastAt? (t.put l (.file (.text text))) k (texts ++ [(p, text)]) =
          lastAt? (t.put l (.file (.text text))) k texts := by
        simp [lastAt?, hlocate', Ne.symm hkl]
      rw [if_neg hkl, hnew, lastAt?_grows hgrows h.located, h.content]

/-! ### Any number of requests -/

theorem length_emitAll {σ : Type} (h : Host σ) (requests : List (String × String)) (w : World σ) :
    (h.emitAll requests w).1.length = requests.length := by
  induction requests generalizing w with
  | nil => rfl
  | cons e rest ih => exact congrArg (· + 1) (ih _)

/-- The first request of a sequence, and the rest in the world that it leaves. -/
theorem emitAll_cons (directory : FilePath) (name text : String)
    (rest : List (String × String)) (w : World Unit) :
    (Host.directory directory).emitAll ((name, text) :: rest) w =
      ((Host.writeIn directory name text w).1 ::
          ((Host.directory directory).emitAll rest (Host.writeIn directory name text w).2).1,
        ((Host.directory directory).emitAll rest (Host.writeIn directory name text w).2).2) :=
  rfl

theorem stored_none (e : String × String) (rest : List (String × String))
    (answers : List (Option FilePath)) :
    stored (e :: rest) (none :: answers) = stored rest answers :=
  rfl

theorem stored_some (name text : String) (rest : List (String × String)) (path : FilePath)
    (answers : List (Option FilePath)) :
    stored ((name, text) :: rest) (some path :: answers) = (path, text) :: stored rest answers :=
  rfl

/-- The texts that were put away before, and those of a sequence of requests, are
where their paths lead. -/
theorem holds_emitAll (directory : FilePath) {before : FileTree}
    (requests : List (String × String)) {w : World Unit} {texts : List (FilePath × String)}
    (h : Holds before w.tree texts) :
    Holds before ((Host.directory directory).emitAll requests w).2.tree
      (texts ++ stored requests ((Host.directory directory).emitAll requests w).1) := by
  induction requests generalizing w texts with
  | nil =>
    rw [Host.emitAll, stored, List.zip_nil_left, List.filterMap_nil, List.append_nil]
    exact h
  | cons e rest ih =>
    obtain ⟨name, text⟩ := e
    -- Either way directories may have been made, and only then a text is written.
    obtain ⟨tree, hextends, hrefused | ⟨l, hlocate, hl, hanswer, htree⟩⟩ :=
      writeIn_cases directory name text w
    · have hnext : Holds before (Host.writeIn directory name text w).2.tree texts := by
        rw [hrefused]
        exact h.extend hextends
      have hanswer : (Host.writeIn directory name text w).1 = none := by rw [hrefused]
      rw [emitAll_cons, hanswer, stored_none]
      exact ih hnext
    · have hnext : Holds before (Host.writeIn directory name text w).2.tree
          (texts ++ [(Host.pathIn directory name, text)]) := by
        rw [htree]
        exact (h.extend hextends).put hlocate hl text
      rw [emitAll_cons, hanswer, stored_some, List.append_cons]
      exact ih hnext

/-- For any tree, any directory and any requests, with names of any kind: the next
request puts its text where its path leads and changes no other file, or changes
no file at all; and whatever the answers so far, each file holds the last text
that was put there, or what it held in the beginning. -/
theorem directory_emits (directory : FilePath) (requests : List (String × String))
    (name text : String) (w : World Unit) :
    let run := (Host.directory directory).emitAll requests w
    let next := (Host.directory directory).emit name text run.2
    Emitted directory name text run.2.tree next.2.tree next.1 ∧
      run.1.length = requests.length ∧ Holds w.tree run.2.tree (stored requests run.1) :=
  ⟨emitted_writeIn directory name text _, length_emitAll _ requests w,
    holds_emitAll directory requests (.nothing w.tree)⟩

/-- Two names that lead to one file, and a third that leads nowhere. -/
example :
    let requests := [("Quarter_", "1"), ("../out/Quarter_", "2"), ("missing/Quarter_", "3")]
    let (answers, w) := (Host.directory ⟨"out"⟩).emitAll requests (.fresh .empty ())
    answers = [some ⟨"out/Quarter_.rs"⟩, some ⟨"out/../out/Quarter_.rs"⟩, none] ∧
      w.tree.read? ⟨"out/Quarter_.rs"⟩ = some "2" := by
  decide +kernel

end Build

end EnumCompanion
