import RegisterPlane.Files.Path

namespace RegisterPlane.Path

def root (home : String) : String := join home ".plexus"

def runDirectory (home : String) : String := join (root home) "run"

def defaultSocket (home node : String) : String := join (runDirectory home) (node ++ ".sock")

end RegisterPlane.Path
