import GlueCode.Output
/-! # Disks that hold the same

The order in which things came onto a disk is not seen by what works on it: on disks that hold the
same, closing an output reports the same and leaves disks that hold the same. -/
namespace GlueCode

namespace Disk

structure Same (d other : Disk) : Prop where
  home : other.home = d.home
  nodes : ∀ loc, other.get? loc = d.get? loc

variable {d d' : Disk}

theorem Same.put (h : d.Same d') (loc : Location) (node : Node) :
    (d.put loc node).Same (d'.put loc node) where
  home := h.home
  nodes other := by simp [h.nodes]

theorem Same.walk (h : d.Same d') (loc : Location) (cs : List String) :
    d'.walk loc cs = d.walk loc cs := by
  induction cs generalizing loc with
  | nil => rfl
  | cons c cs ih => simp only [Disk.walk, h.nodes, ih]

theorem Same.locate (h : d.Same d') (p : Path) : d'.locate p = d.locate p := by
  simp only [Disk.locate, h.home, h.walk]

theorem Same.has (h : d.Same d') (p : Path) : d'.has p = d.has p := by
  simp only [Disk.has, h.locate, h.nodes]

theorem Same.isDirectory (h : d.Same d') (p : Path) : d'.isDirectory p = d.isDirectory p := by
  simp only [Disk.isDirectory, Disk.node?, h.locate, h.nodes]

theorem Same.read (h : d.Same d') (p : Path) : d'.read p = d.read p := by
  simp only [Disk.read, h.locate, h.nodes]

inductive SameResult : Except DiskFailure Disk → Except DiskFailure Disk → Prop where
  | ok {d d' : Disk} (h : d.Same d') : SameResult (.ok d) (.ok d')
  | error (e : DiskFailure) : SameResult (.error e) (.error e)

theorem Same.write (h : d.Same d') (p : Path) (bytes : ByteArray) :
    SameResult (d.write p bytes) (d'.write p bytes) := by
  rw [Disk.write, Disk.write, h.locate]
  cases d.locate p with
  | error e => exact .error e
  | ok loc =>
    simp only [bind, Except.bind, h.nodes]
    split
    · exact .error .isDirectory
    · exact .ok (h.put loc (.file bytes))

theorem Same.makeDirectory (h : d.Same d') (p : Path) :
    SameResult (d.makeDirectory p) (d'.makeDirectory p) := by
  rw [Disk.makeDirectory, Disk.makeDirectory, h.locate]
  cases d.locate p with
  | error e => exact .error e
  | ok loc =>
    simp only [bind, Except.bind, h.nodes]
    split
    · exact .error .occupied
    · exact .ok (h.put loc .directory)

theorem Same.ensureDirectory (h : d.Same d') (p : Path) :
    (d.ensureDirectory p).1.Same (d'.ensureDirectory p).1 ∧
      (d.ensureDirectory p).2 = (d'.ensureDirectory p).2 := by
  have hmake := h.makeDirectory p
  rw [Disk.ensureDirectory, Disk.ensureDirectory]
  generalize d.makeDirectory p = result, d'.makeDirectory p = result' at hmake
  cases hmake with
  | ok hmade => exact ⟨hmade, rfl⟩
  | error e => exact ⟨h, (h.isDirectory p).symm⟩

theorem Same.ensureDirectories (h : d.Same d') (root : Root) (rev : List String) :
    (d.ensureDirectories root rev).1.Same (d'.ensureDirectories root rev).1 ∧
      (d.ensureDirectories root rev).2 = (d'.ensureDirectories root rev).2 := by
  induction rev with
  | nil => exact h.ensureDirectory _
  | cons c rev ih =>
    have hmake := h.makeDirectory ⟨root, (c :: rev).reverse⟩
    rw [Disk.ensureDirectories, Disk.ensureDirectories]
    generalize d.makeDirectory ⟨root, (c :: rev).reverse⟩ = result,
      d'.makeDirectory ⟨root, (c :: rev).reverse⟩ = result' at hmake
    cases hmake with
    | ok hmade => exact ⟨hmade, rfl⟩
    | error e =>
      cases e with
      | missing =>
        obtain ⟨hup, hdone⟩ := ih
        generalize d.ensureDirectories root rev = up,
          d'.ensureDirectories root rev = up' at hup hdone
        obtain ⟨above, done⟩ := up
        obtain ⟨above', done'⟩ := up'
        obtain rfl : done = done' := hdone
        cases done with
        | false => exact ⟨hup, rfl⟩
        | true => exact hup.ensureDirectory _
      | notDirectory | isDirectory | occupied | tooLong =>
        exact ⟨h, (h.isDirectory _).symm⟩

theorem Same.absolute (h : d.Same d') (p : Path) : d'.absolute p = d.absolute p := by
  rw [Disk.absolute, Disk.absolute, h.home]

end Disk

structure Closing.Same (closing other : Closing) : Prop where
  disk : closing.disk.Same other.disk
  log : other.log = closing.log
  written : other.written = closing.written

variable {d d' : Disk}

theorem Disk.Same.prepareParent (h : d.Same d') (p : Path) :
    (d.prepareParent p).Same (d'.prepareParent p) := by
  rw [Disk.prepareParent, Disk.prepareParent, h.has]
  split
  · exact ⟨h, rfl, rfl⟩
  · exact ⟨h, rfl, rfl⟩
  · split
    · exact ⟨h, rfl, rfl⟩
    · obtain ⟨hmade, hdone⟩ := h.ensureDirectories p.parent.root p.parent.components.reverse
      rw [Disk.makeDirectories, Disk.makeDirectories]
      generalize d.ensureDirectories p.parent.root p.parent.components.reverse = result,
        d'.ensureDirectories p.parent.root p.parent.components.reverse = result' at hmade hdone
      obtain ⟨made, done⟩ := result
      obtain ⟨made', done'⟩ := result'
      obtain rfl : done = done' := hdone
      cases done with
      | true => exact ⟨hmade, rfl, rfl⟩
      | false => exact ⟨hmade, by simp only [hmade.absolute], rfl⟩

namespace Output

theorem store_same (h : d.Same d') (o : Output) : (o.store d).Same (o.store d') := by
  have hparent := h.prepareParent o.path
  rw [store, store]
  generalize d.prepareParent o.path = parent, d'.prepareParent o.path = parent' at hparent
  obtain ⟨hdisk, hlog, hwritten⟩ := hparent
  rw [hwritten]
  split
  · split
    · exact ⟨hdisk, hlog, rfl⟩
    · have hwrite := hdisk.write o.path o.text.toUTF8
      generalize parent.disk.write o.path o.text.toUTF8 = result,
        parent'.disk.write o.path o.text.toUTF8 = result' at hwrite
      cases hwrite with
      | ok hput => exact ⟨hput, hlog, rfl⟩
      | error e => exact ⟨hdisk, by simp only [hlog], rfl⟩
  · exact ⟨hdisk, hlog, hwritten⟩

theorem before_same (h : d.Same d') (o : Output) : o.before d' = o.before d := by
  simp only [before, h.has, h.read]

/-- Closing an output does not see the order of things on a disk. -/
theorem close_same (h : d.Same d') (o : Output) : (o.close d).Same (o.close d') := by
  have hstore := store_same h o
  rw [close, close, before_same h]
  split
  · exact ⟨h, rfl, rfl⟩
  · split
    · exact ⟨h, rfl, rfl⟩
    · exact ⟨h, rfl, rfl⟩
    · exact ⟨hstore.disk, by simp only [hstore.log], hstore.written⟩
    · exact hstore

end Output

end GlueCode
