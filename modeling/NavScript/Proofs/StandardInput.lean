import NavScript.CommandLine.StandardInput
import NavScript.Proofs.Session.Unread

namespace NavScript.CommandLine.StandardInput

/-!
# Another standard input

What a standard input holds shows only where somebody reads it.  With other bytes in it, and the
same names, all other files are found as before, and flatteners that do not look at it answer as
before.

* `among_withStream` — the files with other bytes in the standard input
* `agreeOn_flattening` — flatteners beside a standard input that nobody reads
-/

variable (input : StandardInput)

/-- The standard input with other bytes under the same names. -/
def withStream (stream : Stream) : StandardInput :=
  { input with stream }

/-- Only the bytes are other ones. -/
theorem among_withStream (stream : Stream) (files : Files) :
    (input.withStream stream).among files = (input.among files).fill input.places stream.contents :=
  (Files.fill_fill_of_subset _ _ _ (List.Subset.refl _) _).symm

/-- Another name does not lead there. -/
theorem isAt_of_notMem {name : String} (h : Files.placeOf name ∉ input.places) :
    input.isAt name = false := by
  simpa [isAt] using h

/-- A file under another name can be read without a loss. -/
theorem readAt_of_notMem {name : String} (h : Files.placeOf name ∉ input.places) :
    input.readAt name = input := by
  rw [readAt, input.isAt_of_notMem h]
  rfl

/-! ### Places -/

/-- A name that leads every program to this standard input leads none to its own. -/
theorem notMem_ownPlaces_of_mem_sharedPlaces {place : Place} (h : place ∈ input.sharedPlaces) :
    place ∉ input.ownPlaces := by
  simpa using (List.mem_filter.mp h).2

/-- What a program finds that has a standard input of its own: it finds this one where everyone
    does. -/
theorem fill_places_fill_own (files : Files) (bytes : List UInt8) :
    (files.fill input.places bytes).fill input.ownPlaces [] =
      (files.fill input.ownPlaces []).fill input.sharedPlaces bytes := by
  rw [places, Files.fill_append,
    Files.fill_comm _ _ fun _ => input.notMem_ownPlaces_of_mem_sharedPlaces,
    Files.fill_fill_of_subset _ _ _ (List.Subset.refl _)]

/-- Its own and the shared places are all there are. -/
theorem fill_shared_fill_own (files : Files) (bytes : List UInt8) :
    (files.fill input.sharedPlaces bytes).fill input.ownPlaces bytes =
      files.fill input.places bytes := by
  rw [places, Files.fill_append,
    Files.fill_comm _ _ fun _ => input.notMem_ownPlaces_of_mem_sharedPlaces]

/-! ### Flatteners -/

section Flatteners

variable {programs : Programs} {stream : Stream} (files : Files) (r : Request)

/-- Files taken as they are: there is only the file asked for. -/
theorem asIs_fill (h : Files.placeOf r.file ∉ input.places) :
    Flattener.asIs (files.fill input.places stream.contents) r =
      ((Flattener.asIs (files.fill input.places input.stream.contents) r).1,
        (Flattener.asIs (files.fill input.places input.stream.contents) r).2.fill input.places
          stream.contents) := by
  simp only [Flattener.asIs, Flattener.pure, Files.readText_fill _ _ _ h,
    Files.fill_fill_of_subset _ _ _ (List.Subset.refl _)]

/-- Programs with a standard input of their own: there are only the shared names of this one, and
    they do not look at what is there. -/
theorem external_apart_fill (h : programs.Disregard input.sharedPlaces) (program : String)
    (args : List String) :
    Flattener.external ((input.withStream stream).apart programs) program args
        (files.fill input.places stream.contents) r =
      ((Flattener.external (input.apart programs) program args
          (files.fill input.places input.stream.contents) r).1,
        (Flattener.external (input.apart programs) program args
          (files.fill input.places input.stream.contents) r).2.fill input.places
            stream.contents) := by
  have hown : (input.withStream stream).ownPlaces = input.ownPlaces := rfl
  have hsubset : input.ownPlaces ⊆ input.places := List.subset_append_left _ _
  have hsubset' : input.sharedPlaces ⊆ input.places := List.subset_append_right _ _
  simp only [Flattener.external, apart, hown, fill_places_fill_own,
    h (files.fill input.ownPlaces []),
    Files.fill_fill_of_subset _ _ _ hsubset, Files.fill_fill_of_subset _ _ _ hsubset']
  exact congrArg _ (input.fill_shared_fill_own _ _)

/-- **Flatteners beside a standard input that nobody reads** give the same answers whatever it
    holds: one that takes files as they are, and one that runs a program which does not look at it
    either. -/
theorem agreeOn_flattening (noFlatten : Bool)
    (h : noFlatten = true ∨ programs.Disregard input.sharedPlaces) (stream : Stream)
    (program : String) (args : List String) :
    let f (left : StandardInput) : Flattener :=
      if noFlatten then .asIs else .external (left.apart programs) program args
    Flattener.AgreeOn input.places stream.contents (input.flattening f)
      ((input.withStream stream).flattening f) := by
  intro f files r hr
  have hplaces : (input.withStream stream).places = input.places := rfl
  have hstream : (input.withStream stream).stream = stream := rfl
  -- the drawing is in another file, so that reading it has taken nothing
  have hleft := input.readAt_of_notMem hr
  have hleft' := (input.withStream stream).readAt_of_notMem hr
  simp only [flattening, hleft, hleft', hplaces, hstream,
    Files.fill_fill_of_subset _ _ _ (List.Subset.refl _)]
  cases noFlatten with
  | true => exact input.asIs_fill files r hr
  | false =>
    exact input.external_apart_fill files r (h.resolve_left Bool.false_ne_true) program args

end Flatteners

end NavScript.CommandLine.StandardInput
