/-
A fixture text: a presentation with a fault in two of its channels: a cycle name that spells no cycle, and crossed bounds.
-/
namespace Stagecraft.Fixture

/-- the lines of the text -/
def malformedChannelsLines : List String :=
  ["\x7b",
   "  \"lightObjects\": [",
   "    \x7b",
   "      \"objectName\": \"tail_light\",",
   "      \"brightnessAnimations\": [",
   "        \x7b \"animationType\": \"visibility\", \"variable\": \"running_lights\", \"clampMin\": 1, \"clampMax\": 1 \x7d",
   "      ]",
   "    \x7d",
   "  ],",
   "  \"sounds\": [",
   "    \x7b",
   "      \"name\": \"vehicle:turn_signal\",",
   "      \"looping\": true,",
   "      \"activeAnimations\": [",
   "        \x7b \"animationType\": \"visibility\", \"variable\": \"5_fast_cycle\", \"clampMin\": 1, \"clampMax\": 1 \x7d",
   "      ],",
   "      \"volumeAnimations\": [",
   "        \x7b \"animationType\": \"translation\", \"variable\": \"throttle\", \"axis\": [0, 1, 0] \x7d",
   "      ]",
   "    \x7d",
   "  ],",
   "  \"particles\": [",
   "    \x7b",
   "      \"type\": \"sparks\",",
   "      \"activeAnimations\": [",
   "        \x7b \"animationType\": \"visibility\", \"variable\": \"grinding\", \"clampMin\": 5, \"clampMax\": 1 \x7d",
   "      ]",
   "    \x7d",
   "  ]",
   "\x7d",
   ""]

end Stagecraft.Fixture
