import FiberEffects.Heap.Debug
import FiberEffects.Fiber.Store
import FiberEffects.Script.Values

namespace FiberEffects.Protocol

def freshFacts : Json :=
  let (a, d) := ({} : Data).freshRef "a"
  let (b, _) := d.freshRef "a"
  .mkObj [("dynamic", .bool (RefId.firstDynamic ≤ a.num)), ("distinct", .bool (a.num != b.num)),
    ("name", .str a.name), ("display_has_name", .bool (a.display.startsWith "a#")),
    ("debug_has_name", .bool (a.debug.startsWith "FiberRefId(a#"))]

def idGeneratorFacts : Json :=
  let (g, d) := ({} : Data).newIdGen 0
  let (first, d) := d.nextId g
  let (second, d) := d.nextId g
  let (fresh, _) := ({} : Data).newIdGen 0 |>.2.nextId 0
  .mkObj [("first", .arr [.nat first, .nat second]),
    ("debug", .str (idGeneratorDebug (d.idGens[g]?.getD 0))), ("new", .nat fresh)]

/-- The answer to a `misc` request. -/
def miscAnswer : Json :=
  let ids := RefId.defaultServices
  let empty : Timeline String := {}
  let one := (empty.add (Time.ofNat 5) "task").2
  .mkObj [("flags_default", Script.flagsJson Flags.default),
    ("flags_default_eq_const", .bool (Flags.default == ⟨true, true⟩)),
    ("default_services_id", .mkObj [("display", .str ids.display), ("debug", .str ids.debug),
      ("as_u64", .nat ids.num), ("name", .str ids.name)]),
    ("default_services_ref", .mkObj [("debug", .str FiberRef.services.debug),
      ("same_id", .bool (FiberRef.services.id.num == ids.num))]),
    ("fresh", freshFacts),
    ("first_dynamic", .nat RefId.firstDynamic),
    ("disposable_default", .str (disposableDebug false)),
    ("settable_debug", .str ({} : GroupCell).debug),
    ("future_debug", .arr [.str ({} : FutureBook).debug, .str ({ resolved := true } : FutureBook).debug]),
    ("scope_default", .str ({} : ResourceCell).debug),
    ("timeline_debug", .arr [.str empty.debug, .str one.debug]),
    ("id_generator", idGeneratorFacts)]

end FiberEffects.Protocol
