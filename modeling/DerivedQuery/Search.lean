/-!
# Ordered search

Readers with several possible readings try them in a fixed order and take the first that succeeds.
If all fail, the error of the *first* failure is reported, since the preferred reading is the one
the writer most likely meant. Trying a reading may change the state, also when it fails.

## Main definitions

* `firstSuccess`
-/

namespace DerivedQuery

universe u v w x

variable {α : Type u} {β : Type v} {ε : Type w} {σ : Type x}

/-- Tries the alternatives in order and then `last`; the first success wins, and if there is none
the first error does. -/
def firstSuccess (attempt : α → σ → Except ε β × σ) (last : σ → Except ε β × σ) :
    List α → σ → Except ε β × σ
  | [], state => last state
  | alternative :: rest, state =>
      match attempt alternative state with
      | (.ok result, after) => (.ok result, after)
      | (.error error, after) =>
          match firstSuccess attempt last rest after with
          | (.ok result, final) => (.ok result, final)
          | (.error _, final) => (.error error, final)

end DerivedQuery
