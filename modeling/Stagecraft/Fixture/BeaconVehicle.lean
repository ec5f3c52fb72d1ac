/-
A fixture text: a road vehicle: a blinking beacon, a dash light, engine sounds, exhaust, and moving parts.
-/
namespace Stagecraft.Fixture

/-- the lines of the text -/
def beaconVehicleLines : List String :=
  ["\x7b",
   "  \"lightObjects\": [",
   "    \x7b",
   "      \"objectName\": \"beacon_lens\",",
   "      \"brightnessAnimations\": [",
   "        \x7b \"animationType\": \"visibility\", \"variable\": \"beacon_lights\", \"clampMin\": 1, \"clampMax\": 1 \x7d,",
   "        \x7b \"animationType\": \"translation\", \"variable\": \"10_10_cycle\", \"axis\": [0, 1, 0] \x7d",
   "      ]",
   "    \x7d,",
   "    \x7b",
   "      \"objectName\": \"dash_light\",",
   "      \"brightnessAnimations\": [",
   "        \x7b \"animationType\": \"inhibitor\", \"variable\": \"engine_running\", \"clampMin\": 0, \"clampMax\": 0 \x7d,",
   "        \x7b \"animationType\": \"translation\", \"variable\": \"electric_power\", \"axis\": [0, 0, 0.08] \x7d",
   "      ]",
   "    \x7d",
   "  ],",
   "  \"sounds\": [",
   "    \x7b",
   "      \"name\": \"vehicle:engine_running\",",
   "      \"looping\": true,",
   "      \"activeAnimations\": [",
   "        \x7b \"animationType\": \"visibility\", \"variable\": \"engine_running\", \"clampMin\": 1, \"clampMax\": 1 \x7d",
   "      ],",
   "      \"volumeAnimations\": [",
   "        \x7b \"animationType\": \"translation\", \"variable\": \"throttle\", \"axis\": [0, 1, 0], \"offset\": 0.4, \"duration\": 10 \x7d",
   "      ],",
   "      \"pitchAnimations\": [",
   "        \x7b \"animationType\": \"translation\", \"variable\": \"rpm\", \"axis\": [0, 0.0005, 0], \"offset\": 0.6 \x7d",
   "      ]",
   "    \x7d,",
   "    \x7b",
   "      \"name\": \"vehicle:horn\",",
   "      \"activeAnimations\": [",
   "        \x7b \"animationType\": \"visibility\", \"variable\": \"horn\", \"clampMin\": 1, \"clampMax\": 1 \x7d",
   "      ]",
   "    \x7d,",
   "    \x7b",
   "      \"name\": \"vehicle:cabin_chime\",",
   "      \"isInterior\": true,",
   "      \"activeAnimations\": [",
   "        \x7b \"animationType\": \"visibility\", \"variable\": \"door_open\", \"clampMin\": 1, \"clampMax\": 1 \x7d",
   "      ]",
   "    \x7d",
   "  ],",
   "  \"particles\": [",
   "    \x7b",
   "      \"type\": \"smoke\",",
   "      \"quantity\": 2,",
   "      \"spawnEveryTick\": true,",
   "      \"activeAnimations\": [",
   "        \x7b \"animationType\": \"visibility\", \"variable\": \"engine_running\", \"clampMin\": 1, \"clampMax\": 1 \x7d,",
   "        \x7b \"animationType\": \"inhibitor\", \"variable\": \"in_water\", \"clampMin\": 1, \"clampMax\": 1 \x7d",
   "      ]",
   "    \x7d,",
   "    \x7b",
   "      \"type\": \"backfire\",",
   "      \"activeAnimations\": [",
   "        \x7b \"animationType\": \"visibility\", \"variable\": \"backfire\", \"clampMin\": 1, \"clampMax\": 1 \x7d",
   "      ]",
   "    \x7d",
   "  ],",
   "  \"animatedObjects\": [",
   "    \x7b",
   "      \"objectName\": \"door_left\",",
   "      \"animations\": [",
   "        \x7b \"animationType\": \"rotation\", \"variable\": \"door_open\", \"axis\": [0, 90, 0], \"duration\": 20 \x7d",
   "      ]",
   "    \x7d,",
   "    \x7b",
   "      \"objectName\": \"gear_stick\",",
   "      \"animations\": [",
   "        \x7b \"animationType\": \"visibility\", \"variable\": \"engine_running\", \"clampMin\": 1, \"clampMax\": 1 \x7d,",
   "        \x7b \"animationType\": \"rotation\", \"variable\": \"gear\", \"axis\": [0, 0, 15], \"clampMin\": -30, \"clampMax\": 60 \x7d,",
   "        \x7b \"animationType\": \"rotation\", \"variable\": \"gear_shift\", \"axis\": [0, 0, 5], \"addPriorOffset\": true \x7d",
   "      ]",
   "    \x7d",
   "  ],",
   "  \"constants\": [\"has_beacon\"]",
   "\x7d",
   ""]

end Stagecraft.Fixture
