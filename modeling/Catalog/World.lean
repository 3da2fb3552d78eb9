import Catalog.Client
import Catalog.Console
import Catalog.Files.Disk

set_option autoImplicit false

namespace Catalog

structure World where
  channel : Channel
  terminal : Terminal
  tree : Tree

namespace World

def onChannel {α : Type} (act : Channel → α × Channel) : StateM World α := fun world =>
  let (result, channel) := act world.channel
  (result, { world with channel })

def onTerminal {α : Type} (act : Terminal → α × Terminal) : StateM World α := fun world =>
  let (result, terminal) := act world.terminal
  (result, { world with terminal })

def onTree {α : Type} (act : Tree → α × Tree) : StateM World α := fun world =>
  let (result, tree) := act world.tree
  (result, { world with tree })

def client (config : Config) : Client (StateM World) where
  config := config
  span := clientSpan config
  transmit := fun span request => onChannel fun channel => channel.transmit span request
  record := fun event => onChannel fun channel => ((), channel.record event)

def console : Console (StateM World) where
  print := fun line => onTerminal fun terminal => ((), terminal.print line)
  askText := fun _ => onTerminal Terminal.askText
  askNumber := fun _ bound => onTerminal fun terminal => terminal.askNumber bound

def disk : Disk (StateM World) where
  makeDirectories := fun path => onTree fun tree => tree.makeDirectories path.toList
  writeFile := fun path bytes => onTree fun tree => tree.writeFile path.toList bytes

end World

end Catalog
