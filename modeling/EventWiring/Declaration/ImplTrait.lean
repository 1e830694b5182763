import EventWiring.Source.TypeTree

/-! Types without a name. A parameter can have such a type, but nothing else can
refer to it. -/
namespace EventWiring.Source

mutual

/-- Whether a type shows one without a name: in what it refers to or is made of, or
among the arguments of its path. The inside of a function pointer, of the bounds of
a trait object and of arguments in parentheses is not looked at. -/
def Ty.showsImplTrait : Ty → Bool
  | .implTrait _ _ => true
  | .reference _ _ target => target.showsImplTrait
  | .pointer _ target => target.showsImplTrait
  | .paren inner => inner.showsImplTrait
  | .group inner => inner.showsImplTrait
  | .slice elem => elem.showsImplTrait
  | .array elem _ => elem.showsImplTrait
  | .tuple elems _ => anyShowsImplTrait elems
  | .path (.mk _ segments) => segmentsShowImplTrait segments
  | .projection _ none rest => segmentsShowImplTrait rest
  | .projection _ (some (.mk _ segments)) rest =>
    segmentsShowImplTrait segments || segmentsShowImplTrait rest
  | _ => false

/-- Whether any of some types shows one without a name. -/
def anyShowsImplTrait : List Ty → Bool
  | [] => false
  | t :: rest => t.showsImplTrait || anyShowsImplTrait rest

/-- Whether the arguments of any segment show a type without a name. -/
def segmentsShowImplTrait : List Segment → Bool
  | [] => false
  | .mk _ (.angle _ args _) :: rest => argsShowImplTrait args || segmentsShowImplTrait rest
  | _ :: rest => segmentsShowImplTrait rest

/-- Whether any of some arguments is a type that shows one without a name. -/
def argsShowImplTrait : List GenericArg → Bool
  | [] => false
  | .type t :: rest => t.showsImplTrait || argsShowImplTrait rest
  | .assocType _ _ t :: rest => t.showsImplTrait || argsShowImplTrait rest
  | _ :: rest => argsShowImplTrait rest

end

end EventWiring.Source
