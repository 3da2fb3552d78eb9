import Catalog.Files.Tree

set_option autoImplicit false

namespace Catalog

structure Disk (m : Type → Type) where
  makeDirectories : String → m (Except IoError Unit)
  writeFile : String → List UInt8 → m (Except IoError Unit)

end Catalog
